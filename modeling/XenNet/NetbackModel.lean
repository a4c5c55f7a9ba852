import XenNet.NetfrontModel
import XenNet.ReleasedSlots

namespace XenNet.NetbackModel

open XenNet.NetmapKernel
open XenNet.NetfrontModel
open XenNet.ReleasedSlots

inductive Txrx where
  | nrRx
  | nrTx
deriving DecidableEq, Repr

/-- `struct xenvif` with the bridge port behind it and the port's
`struct netmap_vpwrap_adapter`. The device of the guest and the device of the port each
have a carrier. `txKring` and `rxKring` are ring 0 of the port's two kinds. -/
structure Xenvif where
  carrierOk : Bool
  portCarrierOk : Bool
  portNetmap : Bool
  naBdg : Bool
  numRxRings : Nat
  txIrq : Nat
  rxIrq : Nat
  guestNeedRxkick : Bool
  guestNeedTxkick : Bool
  txKring : NetmapKring
  rxKring : NetmapKring
  txEvtchn : EventChannel
  rxEvtchn : EventChannel

/-- The kick flags that `xenvif_netmap_reg` sets up. -/
def xenvifNetmapReg (vif : Xenvif) : Xenvif :=
  { vif with guestNeedRxkick := true, guestNeedTxkick := false }

/-- The transmit branch of `xenvif_netmap_irq` up to the return of `nm_txsync`, with the
slots that went to the bridge. -/
def irqTxsync (nm : NetmapApi) (vif : Xenvif) : Xenvif × List Nat :=
  let synced := nm.netmapVpTxsync (nm.nmTxsyncPrologue vif.txKring).1
  ({ vif with txKring := synced.1 }, synced.2)

def irqClearTxkick (vif : Xenvif) : Xenvif :=
  { vif with guestNeedTxkick := false }

/-- The end of the transmit branch of `xenvif_netmap_irq`. -/
def irqNotifyTx (vif : Xenvif) : Xenvif :=
  if vif.txIrq ≠ 0 then { vif with txEvtchn := vif.txEvtchn.notifyRemoteViaIrq } else vif

/-- The call of `nm_rxsync` in `xenvif_netmap_irq`. Its argument is a transmit ring. -/
def irqRxsync (nm : NetmapApi) (vif : Xenvif) : Xenvif :=
  { vif with txKring := nm.netmapVpRxsync vif.txKring }

def irqArmRxkick (vif : Xenvif) : Xenvif :=
  { vif with guestNeedRxkick := true }

/-- `xenvif_netmap_irq`, with the slots that went to the bridge. -/
def xenvifNetmapIrq (nm : NetmapApi) (vif : Xenvif) (tx : Bool) : Xenvif × List Nat :=
  if tx then (irqNotifyTx (irqClearTxkick (irqTxsync nm vif).1), (irqTxsync nm vif).2)
  else (irqArmRxkick (irqRxsync nm vif), [])

def rxWorkTodo (vif : Xenvif) : Bool :=
  !vif.guestNeedRxkick

def txWorkTodo (vif : Xenvif) : Bool :=
  vif.guestNeedTxkick

/-- Where `xenvif_netmap_kthread` stands: before it looks for work, asleep in
`wait_event_interruptible`, or inside one of the branches. -/
inductive Kthread where
  | checking
  | asleep
  | txBranch
  | txSynced
  | txCleared
  | rxBranch
  | rxSynced
deriving DecidableEq, Repr

def wakeUp : Kthread → Kthread
  | .asleep => .checking
  | pc => pc

/-- `xenvif_netmap_irqsched`, with the value that it returns. -/
def xenvifNetmapIrqsched (vif : Xenvif) (pc : Kthread) (tx : Bool) : Xenvif × Kthread × Int :=
  if !vif.carrierOk then (vif, pc, 1)
  else if !vif.naBdg then (vif, pc, 1)
  else (if tx then { vif with guestNeedTxkick := true } else vif, wakeUp pc, 0)

/-- The next step of `xenvif_netmap_kthread`, with the slots that it sends to the bridge. A
thread that sleeps has none. -/
def kthreadStep (nm : NetmapApi) (vif : Xenvif) : Kthread → Option (Xenvif × Kthread × List Nat)
  | .checking =>
      if rxWorkTodo vif || txWorkTodo vif then some (vif, .txBranch, [])
      else some (vif, .asleep, [])
  | .asleep => none
  | .txBranch =>
      if txWorkTodo vif then some ((irqTxsync nm vif).1, .txSynced, (irqTxsync nm vif).2)
      else some (vif, .rxBranch, [])
  | .txSynced => some (irqClearTxkick vif, .txCleared, [])
  | .txCleared => some (irqNotifyTx vif, .rxBranch, [])
  | .rxBranch =>
      if rxWorkTodo vif then some (irqRxsync nm vif, .rxSynced, [])
      else some (vif, .checking, [])
  | .rxSynced => some (irqArmRxkick vif, .checking, [])

/-- `xenvif_netmap_rxsync`, for a device whose carrier is given. The look at the buffer
addresses only prints. -/
def xenvifNetmapRxsync (nm : NetmapApi) (carrierOk : Bool) (kring : NetmapKring) :
    Option (NetmapKring × Int) :=
  if !carrierOk then some (kring, 0)
  else if kring.nkrNumSlots - 1 < kring.ring.head then
    some ((nm.netmapRingReinit kring).1, 0)
  else
    match releaseLoop nm kring.ring.head (kring.nkrNumSlots - 1) kring.nkrNumSlots
        kring.nrHwcur kring.ring with
    | none => none
    | some ring =>
        some (nm.nmRxsyncFinalize { kring with nrHwcur := kring.ring.head, ring := ring }, 0)

/-- The part of `xenvif_notify` after the receive ring was synced. -/
def notifyGuestRx (vif : Xenvif) : Xenvif :=
  if vif.guestNeedRxkick then
    { vif with
      guestNeedRxkick := false
      rxEvtchn := if vif.rxIrq ≠ 0 then vif.rxEvtchn.notifyRemoteViaIrq else vif.rxEvtchn }
  else vif

/-- The early returns of `xenvif_notify`. `tryget` is what `nm_kr_tryget` answers for the
ring. -/
def notifyIgnored (vif : Xenvif) (ringNr : Nat) (tx : Txrx) (tryget : Bool) : Bool :=
  !vif.portNetmap || ringNr == vif.numRxRings || !vif.portCarrierOk || tx == .nrTx || tryget

/-- `xenvif_notify`, with the value that it returns. -/
def xenvifNotify (nm : NetmapApi) (vif : Xenvif) (ringNr : Nat) (tx : Txrx)
    (tryget : Bool) : Option (Xenvif × Int) :=
  if notifyIgnored vif ringNr tx tryget then some (vif, 0)
  else
    match xenvifNetmapRxsync nm vif.portCarrierOk vif.rxKring with
    | none => none
    | some (kring, error) => some (notifyGuestRx { vif with rxKring := kring }, error)

def freshXenvif (n : Nat) : Xenvif :=
  let ring : NetmapRing :=
    { numSlots := n, head := 0, cur := 0, tail := 0, slot := fun _ => ⟨0, 0, 0, 0⟩ }
  let kring : NetmapKring :=
    { nkrNumSlots := n, nrHwcur := 0, nrHwtail := 0, nkrHwofs := 0, nrKflags := 0,
      nkrSlotFlags := 0, rhead := 0, rcur := 0, rtail := 0, ring := ring }
  xenvifNetmapReg
    { carrierOk := true
      portCarrierOk := true
      portNetmap := true
      naBdg := true
      numRxRings := 1
      txIrq := 1
      rxIrq := 2
      guestNeedRxkick := false
      guestNeedTxkick := false
      txKring := { kring with
        nrHwtail := n - 1, rtail := n - 1, ring := { ring with tail := n - 1 } }
      rxKring := kring
      txEvtchn := ⟨false, 0⟩
      rxEvtchn := ⟨false, 0⟩ }

/-- The steps of `xenvif_netmap_kthread` from `pc`: the device and the position that each
leaves, and the slots that it sends. -/
inductive KthreadMove (nm : NetmapApi) (vif : Xenvif) (pc : Kthread) :
    Xenvif → Kthread → List Nat → Prop
  | work (hpc : pc = .checking) (htodo : rxWorkTodo vif = true ∨ txWorkTodo vif = true) :
      KthreadMove nm vif pc vif .txBranch []
  | sleep (hpc : pc = .checking) (hrx : rxWorkTodo vif = false) (htx : txWorkTodo vif = false) :
      KthreadMove nm vif pc vif .asleep []
  | txsync (hpc : pc = .txBranch) (htodo : txWorkTodo vif = true) :
      KthreadMove nm vif pc (irqTxsync nm vif).1 .txSynced (irqTxsync nm vif).2
  | skipTx (hpc : pc = .txBranch) (hnone : txWorkTodo vif = false) :
      KthreadMove nm vif pc vif .rxBranch []
  | clearTx (hpc : pc = .txSynced) : KthreadMove nm vif pc (irqClearTxkick vif) .txCleared []
  | notifyTx (hpc : pc = .txCleared) : KthreadMove nm vif pc (irqNotifyTx vif) .rxBranch []
  | rxsync (hpc : pc = .rxBranch) (htodo : rxWorkTodo vif = true) :
      KthreadMove nm vif pc (irqRxsync nm vif) .rxSynced []
  | skipRx (hpc : pc = .rxBranch) (hnone : rxWorkTodo vif = false) :
      KthreadMove nm vif pc vif .checking []
  | armRx (hpc : pc = .rxSynced) : KthreadMove nm vif pc (irqArmRxkick vif) .checking []

theorem kthreadStep_cases {nm : NetmapApi} {vif vif' : Xenvif} {pc pc' : Kthread}
    {slots : List Nat} (hstep : kthreadStep nm vif pc = some (vif', pc', slots)) :
    KthreadMove nm vif pc vif' pc' slots := by
  cases pc with
  | checking =>
      simp only [kthreadStep] at hstep
      split_ifs at hstep with htodo <;> obtain ⟨rfl, rfl, rfl⟩ := hstep
      · exact .work rfl (Bool.or_eq_true_iff.mp htodo)
      · simp only [Bool.or_eq_true, not_or, Bool.not_eq_true] at htodo
        exact .sleep rfl htodo.1 htodo.2
  | asleep => contradiction
  | txBranch =>
      simp only [kthreadStep] at hstep
      split_ifs at hstep with htodo <;> obtain ⟨rfl, rfl, rfl⟩ := hstep
      · exact .txsync rfl htodo
      · exact .skipTx rfl (Bool.not_eq_true _ ▸ htodo)
  | txSynced =>
      obtain ⟨rfl, rfl, rfl⟩ := hstep
      exact .clearTx rfl
  | txCleared =>
      obtain ⟨rfl, rfl, rfl⟩ := hstep
      exact .notifyTx rfl
  | rxBranch =>
      simp only [kthreadStep] at hstep
      split_ifs at hstep with htodo <;> obtain ⟨rfl, rfl, rfl⟩ := hstep
      · exact .rxsync rfl htodo
      · exact .skipRx rfl (Bool.not_eq_true _ ▸ htodo)
  | rxSynced =>
      obtain ⟨rfl, rfl, rfl⟩ := hstep
      exact .armRx rfl

/-- The steps of the thread from one branch to the next make up `xenvif_netmap_irq`. -/
theorem kthreadStep_tx_branch (nm : NetmapApi) {vif : Xenvif}
    (htodo : txWorkTodo vif = true) :
    kthreadStep nm vif .txBranch =
        some ((irqTxsync nm vif).1, .txSynced, (xenvifNetmapIrq nm vif true).2) ∧
      kthreadStep nm (irqTxsync nm vif).1 .txSynced =
        some (irqClearTxkick (irqTxsync nm vif).1, .txCleared, []) ∧
      kthreadStep nm (irqClearTxkick (irqTxsync nm vif).1) .txCleared =
        some ((xenvifNetmapIrq nm vif true).1, .rxBranch, []) := by
  simp [kthreadStep, htodo, xenvifNetmapIrq]

theorem kthreadStep_rx_branch (nm : NetmapApi) {vif : Xenvif}
    (htodo : rxWorkTodo vif = true) :
    kthreadStep nm vif .rxBranch = some (irqRxsync nm vif, .rxSynced, []) ∧
      kthreadStep nm (irqRxsync nm vif) .rxSynced =
        some ((xenvifNetmapIrq nm vif false).1, .checking, []) := by
  simp [kthreadStep, htodo, xenvifNetmapIrq]

theorem irqNotifyTx_of_bound {vif : Xenvif} (hirq : vif.txIrq ≠ 0) :
    irqNotifyTx vif = { vif with txEvtchn := vif.txEvtchn.notifyRemoteViaIrq } :=
  if_pos hirq

@[simp] theorem irqNotifyTx_txKring (vif : Xenvif) : (irqNotifyTx vif).txKring = vif.txKring := by
  unfold irqNotifyTx
  split <;> rfl

@[simp] theorem notifyGuestRx_txKring (vif : Xenvif) :
    (notifyGuestRx vif).txKring = vif.txKring := by
  unfold notifyGuestRx
  split <;> rfl

@[simp] theorem notifyGuestRx_rxKring (vif : Xenvif) :
    (notifyGuestRx vif).rxKring = vif.rxKring := by
  unfold notifyGuestRx
  split <;> rfl

theorem xenvifNotify_cases {nm : NetmapApi} {vif vif' : Xenvif} {ringNr : Nat} {tx : Txrx}
    {tryget : Bool} {error : Int}
    (hnotify : xenvifNotify nm vif ringNr tx tryget = some (vif', error)) :
    vif' = vif ∨ ∃ kring, vif' = notifyGuestRx { vif with rxKring := kring } := by
  unfold xenvifNotify at hnotify
  split at hnotify
  · exact Or.inl (Prod.mk.inj (Option.some.inj hnotify)).1.symm
  · split at hnotify
    · contradiction
    · exact Or.inr ⟨_, (Prod.mk.inj (Option.some.inj hnotify)).1.symm⟩

theorem wakeUp_ne_asleep (pc : Kthread) : wakeUp pc ≠ .asleep := by
  cases pc <;> simp [wakeUp]

end XenNet.NetbackModel
