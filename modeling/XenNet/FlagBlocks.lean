import XenNet.NetbackModel
import XenNet.NetmapReference
import XenNet.PortRegistration

namespace XenNet.FlagBlocks

open XenNet.TransitionSystem
open XenNet.NetmapKernel
open XenNet.NetmapReference
open XenNet.GrantRing
open XenNet.GrantConfinement
open XenNet.GrantLifecycle
open XenNet.NetbackModel hiding xenvifNetmapReg
open XenNet.PortRegistration

/-- The backend with the flag blocks of its port. A thread that runs waits on the block that
it took when it started. -/
structure Backend where
  vif : Xenvif
  port : VifPort
  thread : Option (Nat × Kthread)

/-- The vif as seen by a function that holds the pointer to block `b`. -/
def through (s : Backend) (b : Nat) : Xenvif :=
  { s.vif with
    guestNeedRxkick := (s.port.vwna b).guestNeedRxkick
    guestNeedTxkick := (s.port.vwna b).guestNeedTxkick }

def setBlock (port : VifPort) (b : Nat) (vif : Xenvif) : VifPort :=
  { port with
    vwna := fun k =>
      if k = b then ⟨vif.guestNeedRxkick, vif.guestNeedTxkick⟩ else port.vwna k }

/-- What such a function leaves behind. -/
def putBack (s : Backend) (b : Nat) (vif : Xenvif) : Backend :=
  { s with vif := vif, port := setBlock s.port b vif }

def startKthread (s : Backend) : Option Backend :=
  match s.thread, s.port.naPrivate with
  | none, some b => some { s with thread := some (b, .checking) }
  | _, _ => none

def threadPc (s : Backend) : Kthread :=
  match s.thread with
  | some (_, pc) => pc
  | none => .checking

def irqschedStep (s : Backend) (tx : Bool) : Option Backend :=
  s.port.naPrivate.map fun b =>
    let result := xenvifNetmapIrqsched (through s b) (threadPc s) tx
    { putBack s b result.1 with thread := s.thread.map fun thread => (thread.1, result.2.1) }

def notifyStep (nm : NetmapApi) (s : Backend) (ringNr : Nat) (tx : Txrx) (tryget : Bool) :
    Option Backend :=
  s.port.naPrivate.bind fun b =>
    (xenvifNotify nm (through s b) ringNr tx tryget).map fun result => putBack s b result.1

def irqStep (nm : NetmapApi) (b : Nat) (s : Backend) (tx : Bool) : Backend :=
  putBack s b (xenvifNetmapIrq nm (through s b) tx).1

/-- A round of the loop of `xenvif_netmap_kthread`. It looks for work in the block `c` that
it took, and `xenvif_netmap_irq` takes the block `b` that the port has now. -/
def kthreadRound (nm : NetmapApi) (s : Backend) : Option Backend :=
  match s.thread, s.port.naPrivate with
  | some (c, .checking), some b =>
      if rxWorkTodo (through s c) || txWorkTodo (through s c) then
        let s₁ := if txWorkTodo (through s c) then irqStep nm b s true else s
        some (if rxWorkTodo (through s₁ c) then irqStep nm b s₁ false else s₁)
      else some { s with thread := some (c, .asleep) }
  | _, _ => none

inductive BlockEvent where
  | reg (flags : UInt32) (onoff : Bool) (call : MapCall)
  | start
  | irqsched (tx : Bool)
  | notify (ringNr : Nat) (tx : Txrx) (tryget : Bool)
  | kthread

def blockStep (layout : RingLayout) (nm : NetmapApi) (s : Backend) :
    BlockEvent → Option Backend
  | .reg flags onoff call =>
      (xenvifNetmapReg layout s.port flags onoff call).map fun result =>
        { s with port := result.port }
  | .start => startKthread s
  | .irqsched tx => irqschedStep s tx
  | .notify ringNr tx tryget => notifyStep nm s ringNr tx tryget
  | .kthread => kthreadRound nm s

/-- The block that the thread's wait condition reads. -/
def waitsOn (s : Backend) : Option Nat :=
  s.thread.map Prod.fst

/-- In netmap mode the thread waits on the block that the port has. -/
def SharesBlock (s : Backend) : Prop :=
  s.port.netmapOn = true → ∀ c, waitsOn s = some c → s.port.naPrivate = some c

/-- A transmit kick that `xenvif_netmap_irqsched` records shows in the thread's wait
condition. -/
def KickSeen (s : Backend) : Prop :=
  s.port.netmapOn = true → s.vif.carrierOk = true → s.vif.naBdg = true →
    ∀ t c, irqschedStep s true = some t → waitsOn t = some c →
      txWorkTodo (through t c) = true

def NoReregistration (s : Backend) : BlockEvent → Prop
  | .reg flags onoff _ => flags ≠ 0 → onoff = true → s.thread = none
  | .start | .irqsched _ | .notify _ _ _ | .kthread => True

/-- Blocks are numbered as they are allocated, and the thread's block is the port's. -/
structure BlockInv (s : Backend) : Prop where
  allocated : ∀ b, s.port.naPrivate = some b → b < s.port.allocated
  shared : ∀ c, waitsOn s = some c → s.port.naPrivate = some c

/-- All that the steps other than registrations can do to the block pointers. -/
structure SamePointers (s t : Backend) : Prop where
  naPrivate : t.port.naPrivate = s.port.naPrivate
  allocated : t.port.allocated = s.port.allocated
  waitsOn : ∀ c, waitsOn t = some c → s.port.naPrivate = some c ∨ waitsOn s = some c

theorem SamePointers.refl (s : Backend) : SamePointers s s :=
  ⟨rfl, rfl, fun _ hc => Or.inr hc⟩

theorem samePointers_irqStep (nm : NetmapApi) (b : Nat) {s t : Backend} (tx : Bool)
    (h : SamePointers s t) : SamePointers s (irqStep nm b t tx) :=
  ⟨h.naPrivate, h.allocated, h.waitsOn⟩

theorem samePointers_round {nm : NetmapApi} {s t : Backend}
    (hround : kthreadRound nm s = some t) : SamePointers s t := by
  unfold kthreadRound at hround
  split at hround
  · rename_i c b hthread hblock
    split at hround
    · obtain rfl := Option.some.inj hround
      have hfirst : SamePointers s
          (if txWorkTodo (through s c) then irqStep nm b s true else s) := by
        split
        · exact samePointers_irqStep nm b true (SamePointers.refl s)
        · exact SamePointers.refl s
      generalize (if txWorkTodo (through s c) then irqStep nm b s true else s) = s₁ at hfirst ⊢
      split
      · exact samePointers_irqStep nm b false hfirst
      · exact hfirst
    · obtain rfl := Option.some.inj hround
      exact ⟨rfl, rfl, fun c hc => Or.inr (by simpa [waitsOn, hthread] using hc)⟩
  · contradiction

theorem samePointers_of_ne_reg {layout : RingLayout} {nm : NetmapApi} {s t : Backend}
    {e : BlockEvent} (he : ∀ flags onoff call, e ≠ .reg flags onoff call)
    (hstep : blockStep layout nm s e = some t) : SamePointers s t := by
  cases e with
  | reg flags onoff call => exact absurd rfl (he flags onoff call)
  | start =>
      simp only [blockStep, startKthread] at hstep
      split at hstep
      · rename_i b hthread hblock
        obtain rfl := Option.some.inj hstep
        refine ⟨rfl, rfl, fun c hc => Or.inl ?_⟩
        rw [hblock]
        exact hc
      · contradiction
  | irqsched tx =>
      obtain ⟨b, hblock, rfl⟩ := Option.map_eq_some_iff.mp hstep
      exact ⟨rfl, rfl, fun c hc => Or.inr (by simpa [waitsOn, Function.comp_def] using hc)⟩
  | notify ringNr tx tryget =>
      obtain ⟨b, hblock, hnotify⟩ := Option.bind_eq_some_iff.mp hstep
      obtain ⟨result, _, rfl⟩ := Option.map_eq_some_iff.mp hnotify
      exact ⟨rfl, rfl, fun _ hc => Or.inr hc⟩
  | kthread => exact samePointers_round hstep

theorem blockInv_step {layout : RingLayout} {nm : NetmapApi} (s : Backend) (e : BlockEvent)
    (t : Backend) (hinv : BlockInv s) (hno : NoReregistration s e)
    (hstep : blockStep layout nm s e = some t) : BlockInv t := by
  by_cases hreg : ∃ flags onoff call, e = .reg flags onoff call
  · obtain ⟨flags, onoff, call, rfl⟩ := hreg
    obtain ⟨result, hresult, rfl⟩ := Option.map_eq_some_iff.mp hstep
    rcases xenvifNetmapReg_cases hresult with ⟨_, rfl⟩ | ⟨_, _, rfl⟩ |
      ⟨hflags, honoff, mapped, hdone⟩
    · exact ⟨hinv.allocated, hinv.shared⟩
    · exact ⟨hinv.allocated, hinv.shared⟩
    · have hnone := hno hflags honoff
      constructor
      · intro b hb
        obtain rfl : s.port.allocated = b := Option.some.inj (hdone.naPrivate.symm.trans hb)
        exact hdone.allocated ▸ Nat.lt_succ_self _
      · intro c hc
        simp [waitsOn, hnone] at hc
  · have hsame := samePointers_of_ne_reg
      (fun flags onoff call he => hreg ⟨flags, onoff, call, he⟩) hstep
    constructor
    · intro b hb
      rw [hsame.naPrivate] at hb
      rw [hsame.allocated]
      exact hinv.allocated b hb
    · intro c hc
      rw [hsame.naPrivate]
      rcases hsame.waitsOn c hc with hblock | hbefore
      · exact hblock
      · exact hinv.shared c hbefore

theorem kickSeen_of_shared {s : Backend} (h : SharesBlock s) : KickSeen s := by
  intro hon hcarrier hbdg t c hirq hc
  obtain ⟨b, hblock, rfl⟩ := Option.map_eq_some_iff.mp hirq
  have hbefore : waitsOn s = some c := by
    simpa [waitsOn, Function.comp_def] using hc
  obtain rfl : b = c := Option.some.inj (hblock.symm.trans (h hon c hbefore))
  simp [txWorkTodo, through, putBack, setBlock, xenvifNetmapIrqsched, hcarrier, hbdg]

def LeadsToShared (layout : RingLayout) (nm : NetmapApi) (s : Backend) (e : BlockEvent) : Prop :=
  ∀ t, blockStep layout nm s e = some t → SharesBlock t ∧ KickSeen t

theorem leadsToShared_iff {layout : RingLayout} {nm : NetmapApi} {s : Backend}
    {e : BlockEvent} (hinv : BlockInv s) :
    NoReregistration s e ↔ LeadsToShared layout nm s e := by
  constructor
  · intro hno t hstep
    have hshared : SharesBlock t := fun _ => (blockInv_step s e t hinv hno hstep).shared
    exact ⟨hshared, kickSeen_of_shared hshared⟩
  · intro hleads
    cases e with
    | reg flags onoff call =>
        intro hflags honoff
        by_contra hsome
        obtain ⟨⟨c, pc⟩, hthread⟩ := Option.ne_none_iff_exists'.mp hsome
        have hwaits : waitsOn s = some c := by rw [waitsOn, hthread]; rfl
        have hbelow := hinv.allocated c (hinv.shared c hwaits)
        obtain ⟨result, hresult⟩ := exists_xenvifNetmapReg layout s.port flags onoff call
        rcases xenvifNetmapReg_cases hresult with ⟨hzero, _⟩ | ⟨_, hoff, _⟩ |
          ⟨_, _, mapped, hdone⟩
        · exact hflags hzero
        · exact Bool.false_ne_true (hoff.symm.trans honoff)
        · have hstep : blockStep layout nm s (.reg flags onoff call) =
              some { s with port := result.port } := by
            rw [blockStep, hresult]
            rfl
          have hsame := (hleads _ hstep).1 hdone.netmapOn c hwaits
          have hnew : s.port.allocated = c :=
            Option.some.inj (hdone.naPrivate.symm.trans hsame)
          omega
    | start => trivial
    | irqsched tx => trivial
    | notify ringNr tx tryget => trivial
    | kthread => trivial

/-- A backend before its first registration, without a thread. -/
structure BlockStart (s : Backend) : Prop where
  naPrivate : s.port.naPrivate = none
  thread : s.thread = none

/-- The thread waits on the block that the interrupt handler and `xenvif_notify` write, in
every state after every step of a run, exactly if the port is not registered again once the
thread runs. -/
theorem blocks_shared (layout : RingLayout) (nm : NetmapApi) {s : Backend}
    (hstart : BlockStart s) (es : List BlockEvent) :
    (Along (blockStep layout nm) NoReregistration s es ↔
      Along (blockStep layout nm) (LeadsToShared layout nm) s es) ∧
    (Along (blockStep layout nm) NoReregistration s es →
      ∀ t, run (blockStep layout nm) s es = some t → SharesBlock t ∧ KickSeen t) := by
  have hinv : BlockInv s := by
    constructor
    · intro b hb
      exact absurd (hstart.naPrivate.symm.trans hb) (Option.some_ne_none b).symm
    · intro c hc
      simp [waitsOn, hstart.thread] at hc
  constructor
  · exact along_iff blockInv_step (fun u e => leadsToShared_iff) hinv
  · intro hno t hrun
    have hlast := invariant_of_along blockInv_step hinv hno hrun
    have hshared : SharesBlock t := fun _ => hlast.shared
    exact ⟨hshared, kickSeen_of_shared hshared⟩

def freshBackend : Backend where
  vif := freshXenvif 4
  port :=
    { vif := unmappedVif
      rings := samplePorts 8192
      netmapOn := false
      vwna := fun _ => ⟨false, false⟩
      allocated := 0
      naPrivate := none }
  thread := none

theorem blockStart_fresh : BlockStart freshBackend where
  naPrivate := rfl
  thread := rfl

/-- The thread serves a kick, and the port is deregistered. -/
def registeredOnce : List BlockEvent :=
  [.reg 1 true sampleCall, .start, .irqsched true, .kthread, .notify 0 .nrRx false,
    .reg 1 false sampleCall]

theorem blocks_shared_once :
    ∃ t, run (blockStep sampleLayout netmapHeaders) freshBackend registeredOnce = some t ∧
      SharesBlock t ∧ KickSeen t := by
  obtain ⟨t, hrun⟩ : ∃ t, run (blockStep sampleLayout netmapHeaders) freshBackend
      registeredOnce = some t := ⟨_, rfl⟩
  have hno : Along (blockStep sampleLayout netmapHeaders) NoReregistration freshBackend
      registeredOnce := by
    refine ⟨fun _ _ => rfl, fun _ _ => ⟨trivial, fun _ _ => ⟨trivial, fun _ _ => ?_⟩⟩⟩
    refine ⟨trivial, fun _ _ => ⟨trivial, fun _ _ => ⟨?_, fun _ _ => trivial⟩⟩⟩
    intro _ honoff
    exact absurd honoff Bool.false_ne_true
  exact ⟨t, hrun, (blocks_shared sampleLayout netmapHeaders blockStart_fresh
    registeredOnce).2 hno t hrun⟩

def registeredTwice : List BlockEvent :=
  [.reg 1 true sampleCall, .start, .reg 1 false sampleCall, .reg 1 true sampleCall]

/-- The port is registered again, and the thread goes on waiting on the first block. -/
theorem blocks_shared_fails :
    ¬ ∀ (layout : RingLayout) (nm : NetmapApi) (s t : Backend), BlockStart s →
      ∀ es : List BlockEvent, run (blockStep layout nm) s es = some t →
        SharesBlock t ∧ KickSeen t := by
  intro halways
  obtain ⟨t, hrun⟩ : ∃ t, run (blockStep sampleLayout netmapHeaders) freshBackend
      registeredTwice = some t := ⟨_, rfl⟩
  have hblocks : (run (blockStep sampleLayout netmapHeaders) freshBackend registeredTwice).all
      (fun t => t.port.netmapOn && waitsOn t == some 0 && t.port.naPrivate == some 1) =
        true := by
    decide
  rw [hrun] at hblocks
  simp only [Option.all_some, Bool.and_eq_true, beq_iff_eq] at hblocks
  obtain ⟨⟨hon, hwaits⟩, hblock⟩ := hblocks
  have hsame := (halways _ _ _ _ blockStart_fresh _ hrun).1 hon 0 hwaits
  rw [hblock] at hsame
  exact absurd hsame (by decide)

end XenNet.FlagBlocks
