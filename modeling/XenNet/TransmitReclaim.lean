import XenNet.NetmapReference
import XenNet.TransmitSystem

/-!
Reclaiming transmit slots. `stat->txhead` lives as long as the device, while netmap makes a
new kring whenever the device is registered after a deregistration. A reclaim frees the slots
up to the one that `txhead` designates, which are the right ones as long as the two count
together.
-/

namespace XenNet.TransmitReclaim

open XenNet.CyclicIndex
open XenNet.TransitionSystem
open XenNet.NetmapKernel
open XenNet.NetmapReference
open XenNet.NetfrontModel
open XenNet.NetfrontTransmit
open XenNet.TransmitSystem

/-- `netfront_netmap_reg`, with the value that it returns. -/
def netfrontNetmapReg (np : NetfrontInfo) (flags : UInt32) (onoff : Bool) :
    NetfrontInfo × Int :=
  if downCheck flags then (np, einval)
  else if onoff then ({ np with carrierOk := true }, 0)
  else ({ np with carrierOk := false }, 0)

/-- The transmit kring as `netmap_krings_create` sets it up. -/
def netmapKringsCreate (kring : NetmapKring) : NetmapKring :=
  { kring with
    nrHwcur := 0
    nrHwtail := kring.nkrNumSlots - 1
    nkrHwofs := 0
    nrKflags := 0
    rhead := 0
    rcur := 0
    rtail := kring.nkrNumSlots - 1
    ring := { kring.ring with
      numSlots := kring.nkrNumSlots, head := 0, cur := 0, tail := kring.nkrNumSlots - 1 } }

/-- The transmit path with netmap's registrations. The kring exists while `registered`. -/
structure TxDevice where
  tx : TxSystem
  registered : Bool

inductive DeviceEvent where
  | reg (flags : UInt32) (onoff : Bool)
  | txsync (user : TxUser) (flags : UInt32)
  | txInterrupt
  | host (consume free : Nat)

def regStep (s : TxDevice) (flags : UInt32) (onoff : Bool) : TxDevice :=
  let result := netfrontNetmapReg s.tx.np flags onoff
  { tx :=
      { s.tx with
        np := result.1
        kring := if onoff && !s.registered then netmapKringsCreate s.tx.kring else s.tx.kring }
    registered := onoff && (s.registered || decide (result.2 = 0)) }

def deviceStep (nm : NetmapApi) (s : TxDevice) : DeviceEvent → Option TxDevice
  | .reg flags onoff => some (regStep s flags onoff)
  | .txsync user flags =>
      if s.registered then
        (txStep nm s.tx (.txsync user flags)).map fun tx => { s with tx := tx }
      else none
  | .txInterrupt => (txStep nm s.tx .txInterrupt).map fun tx => { s with tx := tx }
  | .host consume free =>
      (txStep nm s.tx (.host consume free)).map fun tx => { s with tx := tx }

/-- The call of `netfront_netmap_txsync` that leads from `s` to `t` reclaims slots. -/
def Reclaims (nm : NetmapApi) (s t : TxSystem) (user : TxUser) (flags : UInt32) : Prop :=
  s.np.carrierOk = true ∧ reclaimTx nm t.stat (user.load s.kring) flags = true

/-- What a reclaim should leave: the tail before `nr_hwcur`, so that the user gets all the
slots that do not wait to be sent, up to the one that netmap keeps empty, and none of those
that wait. -/
structure Reclaimed (nm : NetmapApi) (t : TxSystem) (head : Nat) : Prop where
  hwtail : t.kring.nrHwtail = nm.nmPrev t.kring.nrHwcur (t.kring.nkrNumSlots - 1)
  txhead : t.stat.txhead.toNat = t.kring.nrHwcur
  offered : ∀ i, i < t.kring.nkrNumSlots →
    (Within t.kring.nkrNumSlots head t.kring.nrHwtail i ↔
      ¬ Within t.kring.nkrNumSlots t.kring.nrHwcur head i ∧ i ≠ t.kring.nrHwtail)

def ReclaimsAligned (nm : NetmapApi) (s : TxDevice) : DeviceEvent → Prop
  | .txsync user flags => ∀ t, deviceStep nm s (.txsync user flags) = some t →
      Reclaims nm s.tx t.tx user flags → Reclaimed nm t.tx user.rhead
  | _ => True

/-- The condition on a step: a registration that makes a new kring finds both counters at 0,
and the counters do not wrap in their 16 bits. -/
def CountersRestart (s : TxDevice) : DeviceEvent → Prop
  | .reg flags onoff => flags ≠ 0 → onoff = true → s.registered = false →
      s.tx.stat.txcur = 0 ∧ s.tx.stat.txhead = 0
  | .txsync user _ => s.tx.np.carrierOk = true → user.rhead < s.tx.kring.nkrNumSlots →
      TxIndexFits s.tx.np.naPriv (s.tx.pending user)
  | _ => True

instance (s : TxDevice) : (e : DeviceEvent) → Decidable (CountersRestart s e)
  | .reg _ _ => inferInstanceAs (Decidable (_ → _ → _ → _))
  | .txsync _ _ => inferInstanceAs (Decidable (_ → _ → _))
  | .txInterrupt => isTrue trivial
  | .host _ _ => isTrue trivial

def HeadAccepted (nm : NetmapApi) (s : TxDevice) : DeviceEvent → Prop
  | .txsync user _ =>
      (nm.nmTxsyncPrologue { s.tx.kring with
        ring := { s.tx.kring.ring with head := user.rhead, cur := user.rcur } }).2 = user.rhead
  | _ => True

instance (nm : NetmapApi) (s : TxDevice) : (e : DeviceEvent) → Decidable (HeadAccepted nm s e)
  | .txsync _ _ => inferInstanceAs (Decidable (_ = _))
  | .reg _ _ => isTrue trivial
  | .txInterrupt => isTrue trivial
  | .host _ _ => isTrue trivial

/-- The counters of the driver and of the kring stand at the same slot. -/
structure CountersAligned (s : TxSystem) : Prop where
  txcur : s.stat.txcur.toNat = s.kring.nrHwcur
  txhead : s.stat.txhead = s.stat.txcur
  hwofs : s.kring.nkrHwofs = 0

theorem CountersAligned.congr {s t : TxSystem} (h : CountersAligned s)
    (htxcur : t.stat.txcur = s.stat.txcur) (htxhead : t.stat.txhead = s.stat.txhead)
    (hhwcur : t.kring.nrHwcur = s.kring.nrHwcur)
    (hofs : t.kring.nkrHwofs = s.kring.nkrHwofs) : CountersAligned t where
  txcur := by rw [htxcur, hhwcur, h.txcur]
  txhead := by rw [htxhead, htxcur, h.txhead]
  hwofs := by rw [hofs, h.hwofs]

structure DeviceInv (s : TxDevice) : Prop where
  pos : 1 ≤ s.tx.ring.numSlots
  numSlots : s.tx.kring.nkrNumSlots = s.tx.ring.numSlots
  hwcur_lt : s.tx.kring.nrHwcur < s.tx.kring.nkrNumSlots
  aligned : s.registered = true → CountersAligned s.tx

/-- While the loop of `netfront_netmap_txsync` runs: `txcur` is as far from `head` as there
are packets to send. -/
structure LoopAligned (n head p : Nat) (ni : NetmapInfo) : Prop where
  numSlots : ni.txRings.numSlots = n
  txcur_lt : ni.stat.txcur.toNat < n
  distance_eq : distance n ni.stat.txcur.toNat head = p
  txhead : ni.stat.txhead = ni.stat.txcur
  fits : TxIndexFits ni p

theorem LoopAligned.acceptTx {n head p : Nat} {ni : NetmapInfo} (hhead : head < n)
    (h : LoopAligned n head (p + 1) ni) (mem : Nat → UInt8) (buf len : Nat) :
    LoopAligned n head p (acceptTx ni mem buf len) := by
  obtain ⟨rfl, htxcur, hdist, _, hfits⟩ := h
  have hnext := acceptTx_txcur_toNat mem buf len htxcur hfits
  refine ⟨acceptTx_numSlots ni mem buf len, ?_, ?_, acceptTx_txhead ni mem buf len,
    acceptTx_indexFits mem buf len htxcur hfits⟩
  · rw [hnext]
    exact advance_lt (Nat.zero_lt_of_lt htxcur) _ _
  · rw [hnext, distance_advance_left htxcur hhead (by omega), hdist]
    rfl

theorem reclaimedHwtail_eq (nm : NetmapApi) {stat : NetfrontCsb} {kring : NetmapKring}
    (hofs : kring.nkrHwofs = 0) (htxhead : stat.txhead.toNat < kring.nkrNumSlots) :
    reclaimedHwtail nm stat kring =
      nm.nmPrev stat.txhead.toNat (kring.nkrNumSlots - 1) := by
  unfold reclaimedHwtail
  dsimp only
  rw [if_neg (Nat.not_le.mpr htxhead), nm.netmapIdxN2k_eq htxhead (by omega), hofs,
    Nat.add_zero, Nat.mod_eq_of_lt htxhead]

theorem reclaimTx_congr (nm : NetmapApi) (stat : NetfrontCsb) {kring kring' : NetmapKring}
    (flags : UInt32) (hrcur : kring'.rcur = kring.rcur)
    (hhwtail : kring'.nrHwtail = kring.nrHwtail) :
    reclaimTx nm stat kring' flags = reclaimTx nm stat kring flags := by
  unfold reclaimTx
  rw [nm.nmKrTxempty_eq, nm.nmKrTxempty_eq, hrcur, hhwtail]

theorem netfrontNetmapTxsync_kring {nm : NetmapApi} {np np' : NetfrontInfo}
    {mem : Nat → UInt8} {kring kring' : NetmapKring} {flags : UInt32}
    (hcarrier : np.carrierOk = true) (hofs : kring.nkrHwofs = 0)
    (hsync : netfrontNetmapTxsync nm np mem kring flags = some (np', kring')) :
    kring'.nkrHwofs = 0 ∧
      (reclaimTx nm np'.naPriv.stat kring flags = true →
        np'.naPriv.stat.txhead.toNat < kring.nkrNumSlots →
        kring'.nrHwtail = nm.nmPrev np'.naPriv.stat.txhead.toNat (kring.nkrNumSlots - 1)) := by
  simp only [netfrontNetmapTxsync, hcarrier, Bool.not_true, Bool.false_eq_true,
    if_false] at hsync
  split at hsync
  · contradiction
  · rename_i nmI ni ring hloop
    obtain ⟨rfl, rfl⟩ := Prod.mk.inj (Option.some.inj hsync)
    constructor
    · rw [(nm.nmTxsyncFinalize_keeps _).nkrHwofs]
      split <;> exact hofs
    · intro hreclaim htxhead
      rw [(nm.nmTxsyncFinalize_keeps _).nrHwtail]
      refine (congrArg NetmapKring.nrHwtail (if_pos ?_)).trans ?_
      · rw [← hreclaim]
        exact reclaimTx_congr nm ni.stat flags rfl rfl
      · exact reclaimedHwtail_eq nm hofs htxhead

@[simp] theorem netfrontNetmapReg_naPriv (np : NetfrontInfo) (flags : UInt32) (onoff : Bool) :
    (netfrontNetmapReg np flags onoff).1.naPriv = np.naPriv := by
  unfold netfrontNetmapReg
  split
  · rfl
  · split <;> rfl

theorem netfrontNetmapReg_error (np : NetfrontInfo) {flags : UInt32} (onoff : Bool)
    (hok : (netfrontNetmapReg np flags onoff).2 = 0) : flags ≠ 0 := by
  rintro rfl
  simp [netfrontNetmapReg, downCheck_iff.mpr rfl, einval] at hok

section Step

variable {nm : NetmapApi} {s t : TxDevice}

theorem countersAligned_txsync {user : TxUser} {flags : UInt32} {tx : TxSystem}
    (hinv : DeviceInv s) (haligned : CountersAligned s.tx) (hcarrier : s.tx.np.carrierOk = true)
    (hfits : TxIndexFits s.tx.np.naPriv (s.tx.pending user))
    (hstep : txStep nm s.tx (.txsync user flags) = some tx) :
    CountersAligned tx ∧ tx.kring.nkrNumSlots = s.tx.kring.nkrNumSlots ∧
      tx.kring.nrHwcur < tx.kring.nkrNumSlots ∧
      (Reclaims nm s.tx tx user flags → Reclaimed nm tx user.rhead) := by
  have hhead := txStep_txsync_eq_some hstep
  have hstart : LoopAligned s.tx.kring.nkrNumSlots user.rhead (s.tx.pending user)
      s.tx.np.naPriv := by
    refine ⟨hinv.numSlots.symm, ?_, ?_, haligned.txhead, hfits⟩
    · exact haligned.txcur ▸ hinv.hwcur_lt
    · exact congrArg (distance s.tx.kring.nkrNumSlots · user.rhead) haligned.txcur
  obtain ⟨tx', hstep', _, _, _, hslots, _, houtcome⟩ :=
    txStep_txsync nm flags hcarrier hinv.hwcur_lt hhead (L := fun _ => True)
      (Q := fun p ni _ => LoopAligned s.tx.kring.nkrNumSlots user.rhead p ni)
      (fun p ni _ buf len _ h _ => h.acceptTx hhead user.mem buf len) (fun _ _ => trivial)
      hstart
  obtain rfl : tx = tx' := Option.some.inj (hstep.symm.trans hstep')
  have hloop := houtcome.holds
  have hlt := houtcome.nmI_lt
  have htxcur : tx.stat.txcur.toNat = tx.kring.nrHwcur :=
    eq_of_distance_eq hloop.txcur_lt hlt hhead hloop.distance_eq
  have hkring : tx.kring.nkrHwofs = 0 ∧
      (reclaimTx nm tx.stat (user.load s.tx.kring) flags = true →
        tx.stat.txhead.toNat < s.tx.kring.nkrNumSlots → tx.kring.nrHwtail =
          nm.nmPrev tx.stat.txhead.toNat (s.tx.kring.nkrNumSlots - 1)) := by
    simp only [txStep, if_pos hhead] at hstep
    split at hstep
    · rename_i np kring hsync
      obtain rfl := Option.some.inj hstep
      exact netfrontNetmapTxsync_kring hcarrier haligned.hwofs hsync
    · contradiction
  have htxhead : tx.stat.txhead.toNat = tx.kring.nrHwcur := by
    rw [← htxcur]
    exact congrArg UInt16.toNat hloop.txhead
  refine ⟨⟨htxcur, hloop.txhead, hkring.1⟩, hslots, by rw [hslots]; exact hlt, ?_⟩
  rintro ⟨_, hreclaim⟩
  have hhwtail : tx.kring.nrHwtail =
      nm.nmPrev tx.kring.nrHwcur (tx.kring.nkrNumSlots - 1) := by
    rw [hkring.2 hreclaim (by rw [htxhead]; exact hlt), htxhead, hslots]
  refine ⟨hhwtail, htxhead, fun i hi => ?_⟩
  rw [hslots] at hi
  rw [hhwtail, hslots]
  exact nm.within_nmPrev_iff hlt hhead hi

theorem deviceInv_reg (hinv : DeviceInv s) {flags : UInt32} {onoff : Bool}
    (hcounters : CountersRestart s (.reg flags onoff)) : DeviceInv (regStep s flags onoff) := by
  have hring : (regStep s flags onoff).tx.ring = s.tx.ring := by
    simp [regStep, TxSystem.ring]
  have hstat : (regStep s flags onoff).tx.stat = s.tx.stat := by
    simp [regStep, TxSystem.stat]
  by_cases hnew : onoff = true ∧ s.registered = false
  · obtain ⟨rfl, hunregistered⟩ := hnew
    have hkring : (regStep s flags true).tx.kring = netmapKringsCreate s.tx.kring := by
      simp [regStep, hunregistered]
    refine ⟨by rw [hring]; exact hinv.pos, ?_, ?_, fun hregistered => ?_⟩
    · rw [hkring, hring]
      exact hinv.numSlots
    · rw [hkring]
      exact Nat.zero_lt_of_lt hinv.hwcur_lt
    · have hflags : flags ≠ 0 := by
        apply netfrontNetmapReg_error s.tx.np true
        simpa [regStep, hunregistered] using hregistered
      obtain ⟨htxcur, htxhead⟩ := hcounters hflags rfl hunregistered
      constructor
      · rw [hstat, hkring, htxcur]
        rfl
      · rw [hstat, htxcur, htxhead]
      · rw [hkring]
        rfl
  · have hkring : (regStep s flags onoff).tx.kring = s.tx.kring := by
      simp only [regStep]
      rw [if_neg (by simpa using hnew)]
    refine ⟨by rw [hring]; exact hinv.pos, by rw [hkring, hring]; exact hinv.numSlots,
      by rw [hkring]; exact hinv.hwcur_lt, fun hregistered => ?_⟩
    have hon : onoff = true := by
      simp only [regStep, Bool.and_eq_true] at hregistered
      exact hregistered.1
    have haligned := hinv.aligned (by simpa [hon] using hnew)
    apply haligned.congr
    · rw [hstat]
    · rw [hstat]
    · rw [hkring]
    · rw [hkring]

theorem deviceInv_txsync (hinv : DeviceInv s) {user : TxUser} {flags : UInt32}
    (hcounters : CountersRestart s (.txsync user flags))
    (hstep : deviceStep nm s (.txsync user flags) = some t) :
    DeviceInv t ∧ (Reclaims nm s.tx t.tx user flags → Reclaimed nm t.tx user.rhead) := by
  simp only [deviceStep, Option.ite_none_right_eq_some] at hstep
  obtain ⟨hregistered, hstep⟩ := hstep
  obtain ⟨tx, htx, rfl⟩ := Option.map_eq_some_iff.mp hstep
  have hhead := txStep_txsync_eq_some htx
  have haligned := hinv.aligned hregistered
  have hring := txStep_numSlots hinv.hwcur_lt htx
  cases hcarrier : s.tx.np.carrierOk with
  | true =>
      obtain ⟨hcounters', hslots, hlt, hreclaimed⟩ :=
        countersAligned_txsync hinv haligned hcarrier (hcounters hcarrier hhead) htx
      refine ⟨⟨?_, ?_, hlt, fun _ => hcounters'⟩, hreclaimed⟩
      · rw [hring]
        exact hinv.pos
      · rw [hring, hslots]
        exact hinv.numSlots
  | false =>
      rw [txStep_txsync_of_no_carrier nm flags hcarrier hhead] at htx
      obtain rfl := Option.some.inj htx
      have hkeeps := nm.nmTxsyncFinalize_keeps (user.load s.tx.kring)
      refine ⟨⟨hinv.pos, ?_, ?_, fun _ => ?_⟩, ?_⟩
      · exact hkeeps.nkrNumSlots.trans hinv.numSlots
      · dsimp only
        rw [hkeeps.nkrNumSlots, hkeeps.nrHwcur]
        exact hinv.hwcur_lt
      · exact haligned.congr rfl rfl hkeeps.nrHwcur hkeeps.nkrHwofs
      · rintro ⟨hup, _⟩
        exact absurd (hcarrier.symm.trans hup) Bool.false_ne_true

theorem deviceInv_step (hinv : DeviceInv s) {e : DeviceEvent} (hcounters : CountersRestart s e)
    (hstep : deviceStep nm s e = some t) : DeviceInv t := by
  cases e with
  | reg flags onoff => exact Option.some.inj hstep ▸ deviceInv_reg hinv hcounters
  | txsync user flags => exact (deviceInv_txsync hinv hcounters hstep).1
  | txInterrupt =>
      obtain rfl := Option.some.inj hstep
      have hsame : (netfrontTxInterrupt s.tx.np).naPriv.txRings = s.tx.np.naPriv.txRings ∧
          (netfrontTxInterrupt s.tx.np).naPriv.stat.txcur = s.tx.np.naPriv.stat.txcur ∧
          (netfrontTxInterrupt s.tx.np).naPriv.stat.txhead = s.tx.np.naPriv.stat.txhead := by
        unfold netfrontTxInterrupt
        split <;> exact ⟨rfl, rfl, rfl⟩
      obtain ⟨hrings, htxcur, htxhead⟩ := hsame
      refine ⟨?_, ?_, hinv.hwcur_lt, fun hregistered => ?_⟩
      · exact hinv.pos.trans_eq (congrArg NetmapRing.numSlots hrings).symm
      · exact hinv.numSlots.trans (congrArg NetmapRing.numSlots hrings).symm
      · exact (hinv.aligned hregistered).congr htxcur htxhead rfl rfl
  | host consume free =>
      obtain ⟨tx, htx, rfl⟩ := Option.map_eq_some_iff.mp hstep
      obtain ⟨_, rfl⟩ := hostAdvance_eq_some htx
      exact ⟨hinv.pos, hinv.numSlots, hinv.hwcur_lt, fun hregistered =>
        (hinv.aligned hregistered).congr rfl rfl rfl rfl⟩

theorem reclaimsAligned_of_counters (hinv : DeviceInv s) {e : DeviceEvent}
    (hcounters : CountersRestart s e) : ReclaimsAligned nm s e := by
  cases e with
  | txsync user flags =>
      intro t hstep
      exact (deviceInv_txsync hinv hcounters hstep).2
  | reg flags onoff => trivial
  | txInterrupt => trivial
  | host consume free => trivial

end Step

/-- A device as `netfront_netmap_attach` leaves it: the kring gets as many slots as the shared
ring has. -/
structure DeviceStart (s : TxDevice) : Prop where
  pos : 1 ≤ s.tx.ring.numSlots
  numSlots : s.tx.kring.nkrNumSlots = s.tx.ring.numSlots
  hwcur_lt : s.tx.kring.nrHwcur < s.tx.kring.nkrNumSlots
  unregistered : s.registered = false

/-- In a run in which every new kring finds the counters at 0, every call that reclaims slots
leaves the tail before `nr_hwcur`. -/
theorem reclaim_aligned (nm : NetmapApi) {s : TxDevice} (hstart : DeviceStart s)
    {es : List DeviceEvent} (hcounters : Along (deviceStep nm) CountersRestart s es) :
    Along (deviceStep nm) (ReclaimsAligned nm) s es := by
  have hinv : DeviceInv s :=
    ⟨hstart.pos, hstart.numSlots, hstart.hwcur_lt, fun hregistered =>
      absurd (hstart.unregistered.symm.trans hregistered) Bool.false_ne_true⟩
  refine Along.mono (I := DeviceInv) ?_ ?_ hinv hcounters
  · intro u e t hu hkept hstep
    exact deviceInv_step hu hkept hstep
  · intro u e hu hkept
    exact reclaimsAligned_of_counters hu hkept

def freshDevice (n : Nat) : TxDevice where
  tx := freshTx n
  registered := false

theorem deviceStart_fresh {n : Nat} (hn : 1 ≤ n) : DeviceStart (freshDevice n) where
  pos := hn
  numSlots := rfl
  hwcur_lt := hn
  unregistered := rfl

/-- One packet is sent and completed, and a second call reclaims its slot. -/
def sentOnce : List DeviceEvent :=
  [.reg 1 true, .txsync (sampleUser 1 1) 0, .host 1 1, .txInterrupt,
    .txsync (sampleUser 1 1) netmapHeaders.nafForceReclaim]

theorem reclaim_aligned_once :
    Along (deviceStep netmapHeaders) (ReclaimsAligned netmapHeaders) (freshDevice 4) sentOnce :=
  reclaim_aligned netmapHeaders (deviceStart_fresh (by decide)) (by decide)

/-- One packet is sent and completed, and the device is registered again. -/
def sentBefore : List DeviceEvent :=
  [.reg 1 true, .txsync (sampleUser 1 1) 0, .host 1 1, .txInterrupt, .reg 1 false, .reg 1 true]

/-- `txhead` stands at slot 1 and the new kring's `nr_hwcur` at slot 0: the first reclaim puts
the tail at slot 0 and the user has no free slot. -/
theorem reclaim_aligned_fails :
    ¬ ∀ (nm : NetmapApi) (s : TxDevice), DeviceStart s → TxStart s.tx →
      ∀ es : List DeviceEvent, Along (deviceStep nm) (HeadAccepted nm) s es →
        Along (deviceStep nm) (ReclaimsAligned nm) s es := by
  intro halways
  have haligned := halways netmapHeaders (freshDevice 4) (deviceStart_fresh (by decide))
    (freshTx_start (by decide))
    (sentBefore ++ [.txsync (sampleUser 1 0) netmapHeaders.nafForceReclaim]) (by decide)
  obtain ⟨s, hrun⟩ : ∃ s, run (deviceStep netmapHeaders) (freshDevice 4) sentBefore = some s :=
    ⟨_, rfl⟩
  -- the last call reclaims, and leaves the tail elsewhere than before `nr_hwcur`
  have hcheck : (run (deviceStep netmapHeaders) (freshDevice 4) sentBefore).all (fun s =>
      (deviceStep netmapHeaders s (.txsync (sampleUser 1 0) netmapHeaders.nafForceReclaim)).any
        fun t => s.tx.np.carrierOk &&
          reclaimTx netmapHeaders t.tx.stat ((sampleUser 1 0).load s.tx.kring)
            netmapHeaders.nafForceReclaim &&
          t.tx.kring.nrHwtail != 3 && t.tx.kring.nrHwcur == 0 && t.tx.kring.nkrNumSlots == 4) =
      true := by
    decide
  rw [hrun] at hcheck
  obtain ⟨t, hstep, hvalues⟩ := (Option.any_eq_true _ _).mp hcheck
  simp only [Bool.and_eq_true, bne_iff_ne, beq_iff_eq] at hvalues
  obtain ⟨⟨⟨⟨hcarrier, hreclaim⟩, hhwtail⟩, hhwcur⟩, hslots⟩ := hvalues
  have hreclaimed := haligned.last hrun t hstep ⟨hcarrier, hreclaim⟩
  apply hhwtail
  rw [hreclaimed.hwtail, hhwcur, hslots]
  rfl

end XenNet.TransmitReclaim
