import XenNet.RingSegment
import XenNet.TransitionSystem
import XenNet.TransmitLoop

namespace XenNet.TransmitSystem

open XenNet.ByteMemory
open XenNet.CyclicIndex
open XenNet.NetmapKernel
open XenNet.NetfrontModel
open XenNet.NetfrontTransmit
open XenNet.RingSegment
open XenNet.TransmitLoop

/-- `hostCur` is the first published slot that the host has not consumed. The last two fields
record what was accepted and what the host read; no step looks at them. -/
structure TxSystem where
  np : NetfrontInfo
  kring : NetmapKring
  hostCur : Nat
  accepted : List (Nat × List UInt8)
  received : List (List UInt8)

/-- What the netmap user has in its ring when it calls: slots, buffers, and the head and
cur that netmap's prologue has taken over. -/
structure TxUser where
  slot : Nat → NetmapSlot
  mem : Nat → UInt8
  rhead : Nat
  rcur : Nat

def TxUser.load (user : TxUser) (kring : NetmapKring) : NetmapKring :=
  { kring with
    rhead := user.rhead
    rcur := user.rcur
    ring := { kring.ring with slot := user.slot } }

inductive TxEvent where
  | txsync (user : TxUser) (flags : UInt32)
  | txInterrupt
  | host (consume free : Nat)
  | carrier (up : Bool)

namespace TxSystem

def ring (s : TxSystem) : NetmapRing :=
  s.np.naPriv.txRings

def stat (s : TxSystem) : NetfrontCsb :=
  s.np.naPriv.stat

def pending (s : TxSystem) (user : TxUser) : Nat :=
  distance s.kring.nkrNumSlots s.kring.nrHwcur user.rhead

end TxSystem

/-- The host reads the next `consume` published slots and gives back `free` more. -/
def hostAdvance (s : TxSystem) (consume free : Nat) : Option TxSystem :=
  let n := s.ring.numSlots
  let hostCur := advance n s.hostCur consume
  if consume ≤ distance n s.hostCur s.ring.cur ∧
      distance n hostCur s.ring.tail + free < n then
    some
      { s with
        hostCur := hostCur
        received := s.received ++ contents n s.np.naPriv.txPacket s.hostCur consume
        np := { s.np with naPriv := { s.np.naPriv with
          txRings := { s.ring with tail := advance n s.ring.tail free } } } }
  else none

def txStep (nm : NetmapApi) (s : TxSystem) : TxEvent → Option TxSystem
  | .txsync user flags =>
      if user.rhead < s.kring.nkrNumSlots then
        match netfrontNetmapTxsync nm s.np user.mem (user.load s.kring) flags with
        | some (np, kring) =>
            some
              { s with
                np := np
                kring := kring
                accepted := s.accepted ++ acceptedPackets nm user.mem
                  (txsyncCalls nm s.np user.mem (user.load s.kring)) }
        | none => none
      else none
  | .txInterrupt => some { s with np := netfrontTxInterrupt s.np }
  | .host consume free => hostAdvance s consume free
  | .carrier up => some { s with np := { s.np with carrierOk := up } }

/-- The state that `setup_netfront_netmap` leaves, with nothing accepted yet. -/
structure TxStart (s : TxSystem) : Prop where
  two_le : 2 ≤ s.ring.numSlots
  cur_lt : s.ring.cur < s.ring.numSlots
  tail_lt : s.ring.tail < s.ring.numSlots
  stat_eq : s.stat = setupNetfrontCsb s.ring
  txcur_eq : s.stat.txcur.toNat = s.ring.cur
  hostCur_eq : s.hostCur = s.ring.cur
  hwcur_lt : s.kring.nrHwcur < s.kring.nkrNumSlots
  accepted_eq : s.accepted = []
  received_eq : s.received = []

def freshTx (n : Nat) : TxSystem :=
  let ring : NetmapRing :=
    { numSlots := n, head := 0, cur := 0, tail := n - 1, slot := fun _ => ⟨0, 0, 0, 0⟩ }
  { np :=
      { carrierOk := true
        naPriv :=
          { txRings := ring
            rxRings := ring
            txdBufsBase := 0
            rxdBufsBase := 0
            bufs := fun _ => 0
            stat := setupNetfrontCsb ring
            txIrq := ⟨false, 0⟩
            rxIrq := ⟨false, 0⟩ } }
    kring :=
      { nkrNumSlots := n, nrHwcur := 0, nrHwtail := n - 1, nkrHwofs := 0, nrKflags := 0,
        nkrSlotFlags := 0, rhead := 0, rcur := 0, rtail := n - 1, ring := ring }
    hostCur := 0
    accepted := []
    received := [] }

theorem freshTx_start {n : Nat} (hn : 2 ≤ n) : TxStart (freshTx n) where
  two_le := hn
  cur_lt := by change 0 < n; omega
  tail_lt := by change n - 1 < n; omega
  stat_eq := rfl
  txcur_eq := rfl
  hostCur_eq := rfl
  hwcur_lt := by change 0 < n; omega
  accepted_eq := rfl
  received_eq := rfl

/-- A user whose ring holds one-byte packets, the byte of slot `i` being `first + i`. -/
def sampleUser (first head : Nat) : TxUser where
  slot i := ⟨UInt32.ofNat (first + i), 1, 0, 0⟩
  mem a := UInt8.ofNat (a / 2048)
  rhead := head
  rcur := head

/-- The order of the indices around the shared ring: from what the host consumes next
over what is published and what is accepted to what the host has freed. -/
structure TxIndices (ni : NetmapInfo) (hostCur : Nat) : Prop where
  cur_lt : ni.txRings.cur < ni.txRings.numSlots
  tail_lt : ni.txRings.tail < ni.txRings.numSlots
  txcur_lt : ni.stat.txcur.toNat < ni.txRings.numSlots
  hostCur_lt : hostCur < ni.txRings.numSlots
  cur_le : distance ni.txRings.numSlots hostCur ni.txRings.cur ≤
    distance ni.txRings.numSlots hostCur ni.stat.txcur.toNat
  txcur_le : distance ni.txRings.numSlots hostCur ni.stat.txcur.toNat ≤
    distance ni.txRings.numSlots hostCur ni.txRings.tail

theorem TxStart.indices {s : TxSystem} (hstart : TxStart s) :
    TxIndices s.np.naPriv s.hostCur := by
  have hcur : s.np.naPriv.txRings.cur < s.np.naPriv.txRings.numSlots := hstart.cur_lt
  have htxcur : s.np.naPriv.stat.txcur.toNat = s.np.naPriv.txRings.cur := hstart.txcur_eq
  have hhost : s.hostCur = s.np.naPriv.txRings.cur := hstart.hostCur_eq
  refine ⟨hcur, hstart.tail_lt, by omega, by omega, ?_, ?_⟩
  · exact Nat.le_of_eq (by rw [htxcur])
  · rw [htxcur, hhost, distance_self hcur]
    exact Nat.zero_le _

def TxIndexFits (ni : NetmapInfo) (p : Nat) : Prop :=
  ni.txRings.numSlots ≤ 65536 ∨ ni.stat.txcur.toNat + p < 65536

instance (ni : NetmapInfo) (p : Nat) : Decidable (TxIndexFits ni p) :=
  inferInstanceAs (Decidable (_ ∨ _))

theorem acceptTx_txcur_toNat {ni : NetmapInfo} (mem : Nat → UInt8) (buf len : Nat) {p : Nat}
    (htxcur : ni.stat.txcur.toNat < ni.txRings.numSlots) (hfits : TxIndexFits ni (p + 1)) :
    (acceptTx ni mem buf len).stat.txcur.toNat =
      advance ni.txRings.numSlots ni.stat.txcur.toNat 1 := by
  rw [acceptTx_txcur, ← netmapRingNext_eq_advance htxcur]
  have hnext := netmapRingNext_lt htxcur
  have hbound : netmapRingNext ni.txRings ni.stat.txcur.toNat < 65536 := by
    rcases hfits with hsize | hroom
    · omega
    · unfold netmapRingNext
      split_ifs <;> omega
  simpa using hbound

theorem acceptTx_indexFits {ni : NetmapInfo} (mem : Nat → UInt8) (buf len : Nat) {p : Nat}
    (htxcur : ni.stat.txcur.toNat < ni.txRings.numSlots) (hfits : TxIndexFits ni (p + 1)) :
    TxIndexFits (acceptTx ni mem buf len) p := by
  rcases hfits with hsize | hroom
  · exact Or.inl (by simpa using hsize)
  · refine Or.inr ?_
    rw [acceptTx_txcur_toNat mem buf len htxcur (Or.inr hroom), advance_one htxcur]
    split_ifs <;> omega

theorem TxIndices.txcur_lt_tail {ni : NetmapInfo} {hostCur : Nat} (hidx : TxIndices ni hostCur)
    (hfree : ni.stat.txcur.toNat ≠ ni.txRings.tail) :
    distance ni.txRings.numSlots hostCur ni.stat.txcur.toNat <
      distance ni.txRings.numSlots hostCur ni.txRings.tail := by
  refine Nat.lt_of_le_of_ne hidx.txcur_le fun heq => hfree ?_
  rw [← advance_distance hidx.hostCur_lt hidx.txcur_lt, heq,
    advance_distance hidx.hostCur_lt hidx.tail_lt]

theorem TxIndices.distance_txcur_succ {ni : NetmapInfo} {hostCur : Nat}
    (hidx : TxIndices ni hostCur) (hfree : ni.stat.txcur.toNat ≠ ni.txRings.tail) :
    distance ni.txRings.numSlots hostCur
        (advance ni.txRings.numSlots ni.stat.txcur.toNat 1) =
      distance ni.txRings.numSlots hostCur ni.stat.txcur.toNat + 1 := by
  have hstrict := hidx.txcur_lt_tail hfree
  have hbound := distance_lt (Nat.zero_lt_of_lt hidx.tail_lt) hostCur ni.txRings.tail
  exact distance_advance_right hidx.hostCur_lt hidx.txcur_lt (by omega)

theorem TxIndices.acceptTx {ni : NetmapInfo} {hostCur p : Nat} (mem : Nat → UInt8)
    (buf len : Nat) (hidx : TxIndices ni hostCur) (hfits : TxIndexFits ni (p + 1))
    (hfree : ni.stat.txcur.toNat ≠ ni.txRings.tail) :
    TxIndices (acceptTx ni mem buf len) hostCur := by
  have hstrict := hidx.txcur_lt_tail hfree
  have hgrow := hidx.distance_txcur_succ hfree
  obtain ⟨hcur, htail, htxcur, hhost, hcurLe, htxcurLe⟩ := hidx
  have hnext := acceptTx_txcur_toNat mem buf len htxcur hfits
  have hnextLt := advance_lt (Nat.zero_lt_of_lt htxcur) ni.stat.txcur.toNat 1
  have hcurCases : (NetfrontTransmit.acceptTx ni mem buf len).txRings.cur =
        advance ni.txRings.numSlots ni.stat.txcur.toNat 1 ∨
      (NetfrontTransmit.acceptTx ni mem buf len).txRings.cur = ni.txRings.cur := by
    cases hkick : ni.stat.hostNeedTxkick with
    | true => exact Or.inl ((acceptTx_of_kick ni mem buf len hkick).1.trans hnext)
    | false => exact Or.inr (acceptTx_of_no_kick ni mem buf len hkick).1
  refine ⟨?_, by simpa using htail, by simpa [hnext] using hnextLt, by simpa using hhost,
    ?_, ?_⟩
  · rcases hcurCases with hc | hc
    · simpa [hc] using hnextLt
    · simpa [hc] using hcur
  · rw [acceptTx_numSlots, hnext]
    rcases hcurCases with hc | hc
    · exact Nat.le_of_eq (congrArg _ hc)
    · rw [hc]
      omega
  · rw [acceptTx_numSlots, acceptTx_tail, hnext]
    omega

theorem TxIndices.txcur_le_tail {ni : NetmapInfo} {hostCur : Nat}
    (hidx : TxIndices ni hostCur) :
    distance ni.txRings.numSlots ni.txRings.cur ni.stat.txcur.toNat ≤
      distance ni.txRings.numSlots ni.txRings.cur ni.txRings.tail := by
  obtain ⟨hcur, htail, htxcur, hhost, hcurLe, htxcurLe⟩ := hidx
  have haccepted := distance_add_distance hhost hcur htxcur hcurLe
  have hfreed := distance_add_distance hhost hcur htail
    (Nat.le_trans hcurLe htxcurLe)
  omega

theorem TxIndices.within_free {ni : NetmapInfo} {hostCur : Nat}
    (hidx : TxIndices ni hostCur) (hfree : ni.stat.txcur.toNat ≠ ni.txRings.tail) :
    Within ni.txRings.numSlots ni.txRings.cur ni.txRings.tail ni.stat.txcur.toNat := by
  refine Nat.lt_of_le_of_ne hidx.txcur_le_tail fun heq => hfree ?_
  rw [← advance_distance hidx.cur_lt hidx.txcur_lt, heq,
    advance_distance hidx.cur_lt hidx.tail_lt]

structure TxWellFormed (s : TxSystem) : Prop where
  indices : TxIndices s.np.naPriv s.hostCur
  hwcur_lt : s.kring.nrHwcur < s.kring.nkrNumSlots

theorem TxStart.wellFormed {s : TxSystem} (hstart : TxStart s) : TxWellFormed s :=
  ⟨hstart.indices, hstart.hwcur_lt⟩

theorem hostAdvance_eq_some {s t : TxSystem} {consume free : Nat}
    (hstep : hostAdvance s consume free = some t) :
    (consume ≤ distance s.ring.numSlots s.hostCur s.ring.cur ∧
      distance s.ring.numSlots (advance s.ring.numSlots s.hostCur consume) s.ring.tail +
        free < s.ring.numSlots) ∧
    t = { s with
      hostCur := advance s.ring.numSlots s.hostCur consume
      received := s.received ++
        contents s.ring.numSlots s.np.naPriv.txPacket s.hostCur consume
      np := { s.np with naPriv := { s.np.naPriv with
        txRings := { s.ring with
          tail := advance s.ring.numSlots s.ring.tail free } } } } := by
  unfold hostAdvance at hstep
  simp only [Option.ite_none_right_eq_some, Option.some.injEq] at hstep
  exact ⟨hstep.1, hstep.2.symm⟩

theorem TxWellFormed.hostAdvance {s t : TxSystem} {consume free : Nat}
    (hwf : TxWellFormed s) (hstep : hostAdvance s consume free = some t) :
    TxWellFormed t := by
  obtain ⟨⟨hconsume, hfree⟩, rfl⟩ := hostAdvance_eq_some hstep
  obtain ⟨⟨hcur, htail, htxcur, hhost, hcurLe, htxcurLe⟩, hhwcur⟩ := hwf
  have hn : 0 < s.np.naPriv.txRings.numSlots := Nat.zero_lt_of_lt hcur
  change consume ≤ distance s.np.naPriv.txRings.numSlots s.hostCur
    s.np.naPriv.txRings.cur at hconsume
  change distance s.np.naPriv.txRings.numSlots
    (advance s.np.naPriv.txRings.numSlots s.hostCur consume) s.np.naPriv.txRings.tail +
      free < s.np.naPriv.txRings.numSlots at hfree
  have hhost' := advance_lt hn s.hostCur consume
  refine ⟨⟨hcur, advance_lt hn _ _, htxcur, hhost', ?_, ?_⟩, hhwcur⟩
  · change distance s.np.naPriv.txRings.numSlots _ s.np.naPriv.txRings.cur ≤
      distance s.np.naPriv.txRings.numSlots _ s.np.naPriv.stat.txcur.toNat
    rw [show s.ring = s.np.naPriv.txRings from rfl,
      distance_advance_left hhost hcur hconsume,
      distance_advance_left hhost htxcur (by omega)]
    omega
  · change distance s.np.naPriv.txRings.numSlots _ s.np.naPriv.stat.txcur.toNat ≤
      distance s.np.naPriv.txRings.numSlots _
        (advance s.np.naPriv.txRings.numSlots s.np.naPriv.txRings.tail free)
    rw [show s.ring = s.np.naPriv.txRings from rfl,
      distance_advance_right hhost' htail hfree,
      distance_advance_left hhost htail (by omega),
      distance_advance_left hhost htxcur (by omega)]
    omega

theorem TxWellFormed.txInterrupt {s : TxSystem} (hwf : TxWellFormed s) :
    TxWellFormed { s with np := netfrontTxInterrupt s.np } := by
  obtain ⟨hidx, hhwcur⟩ := hwf
  refine ⟨?_, hhwcur⟩
  unfold netfrontTxInterrupt
  split
  · exact ⟨hidx.cur_lt, hidx.tail_lt, hidx.txcur_lt, hidx.hostCur_lt, hidx.cur_le,
      hidx.txcur_le⟩
  · exact hidx

theorem txStep_txsync (nm : NetmapApi) {s : TxSystem} {user : TxUser} (flags : UInt32)
    (hcarrier : s.np.carrierOk = true) (hcur : s.kring.nrHwcur < s.kring.nkrNumSlots)
    (hhead : user.rhead < s.kring.nkrNumSlots)
    {L : Nat → Prop} {Q : Nat → NetmapInfo → List (Nat × List UInt8) → Prop}
    (hstep : ∀ p ni acc buf len, L len → Q (p + 1) ni acc →
      ni.txRings.cur ≠ ni.txRings.tail →
      Q p (acceptTx ni user.mem buf len)
        (acc ++ [(ni.stat.txcur.toNat, bytes user.mem buf len)]))
    (hlen : ∀ i, i < s.kring.nkrNumSlots → L (user.slot i).len.toNat)
    (hQ : Q (s.pending user) s.np.naPriv s.accepted) :
    ∃ t, txStep nm s (.txsync user flags) = some t ∧ t.hostCur = s.hostCur ∧
      t.received = s.received ∧ t.np.carrierOk = true ∧
      t.kring.nkrNumSlots = s.kring.nkrNumSlots ∧
      t.accepted = s.accepted ++ acceptedPackets nm user.mem
        (txsyncCalls nm s.np user.mem (user.load s.kring)) ∧
      LoopOutcome nm user.mem s.kring.nkrNumSlots user.rhead Q s.accepted
        (txsyncCalls nm s.np user.mem (user.load s.kring)) t.kring.nrHwcur
        t.np.naPriv := by
  obtain ⟨np, kring, htxsync, hcarrier', hslots, houtcome⟩ :=
    txsync_spec nm s.np user.mem (user.load s.kring) flags hcarrier hcur hhead hstep
      s.accepted hlen hQ
  let t : TxSystem :=
    { s with
      np := np
      kring := kring
      accepted := s.accepted ++ acceptedPackets nm user.mem
        (txsyncCalls nm s.np user.mem (user.load s.kring)) }
  have ht : txStep nm s (.txsync user flags) = some t := by
    simp only [txStep, if_pos hhead, htxsync]
    rfl
  exact ⟨t, ht, rfl, rfl, hcarrier', hslots, rfl, houtcome⟩

theorem txStep_txsync_of_no_carrier (nm : NetmapApi) {s : TxSystem} {user : TxUser}
    (flags : UInt32) (hcarrier : s.np.carrierOk = false)
    (hhead : user.rhead < s.kring.nkrNumSlots) :
    txStep nm s (.txsync user flags) =
      some { s with kring := nm.nmTxsyncFinalize (user.load s.kring) } := by
  obtain ⟨htxsync, hcalls⟩ :=
    txsync_of_no_carrier nm s.np user.mem (user.load s.kring) flags hcarrier
  simp only [txStep, if_pos hhead, htxsync, hcalls]
  simp [acceptedPackets]

theorem txStep_txsync_eq_some {nm : NetmapApi} {s t : TxSystem} {user : TxUser}
    {flags : UInt32} (hstep : txStep nm s (.txsync user flags) = some t) :
    user.rhead < s.kring.nkrNumSlots := by
  by_contra hhead
  simp [txStep, hhead] at hstep

theorem txStep_numSlots {nm : NetmapApi} {s t : TxSystem} {e : TxEvent}
    (hcur : s.kring.nrHwcur < s.kring.nkrNumSlots) (hstep : txStep nm s e = some t) :
    t.ring.numSlots = s.ring.numSlots := by
  cases e with
  | txsync user flags =>
      have hhead := txStep_txsync_eq_some hstep
      cases hcarrier : s.np.carrierOk with
      | true =>
          obtain ⟨t', ht', _, _, _, _, _, houtcome⟩ :=
            txStep_txsync nm flags hcarrier hcur hhead (L := fun _ => True)
              (Q := fun _ ni _ => ni.txRings.numSlots = s.ring.numSlots)
              (fun _ _ _ _ _ _ hnum _ => by simpa using hnum) (fun _ _ => trivial) rfl
          rw [hstep] at ht'
          exact Option.some.inj ht' ▸ houtcome.holds
      | false =>
          rw [txStep_txsync_of_no_carrier nm flags hcarrier hhead] at hstep
          exact Option.some.inj hstep ▸ rfl
  | txInterrupt =>
      rw [← Option.some.inj hstep]
      unfold netfrontTxInterrupt
      split <;> rfl
  | host consume free =>
      obtain ⟨_, rfl⟩ := hostAdvance_eq_some hstep
      rfl
  | carrier up => exact Option.some.inj hstep ▸ rfl

theorem txStep_hwcur_lt {nm : NetmapApi} {s t : TxSystem} {e : TxEvent}
    (hcur : s.kring.nrHwcur < s.kring.nkrNumSlots) (hstep : txStep nm s e = some t) :
    t.kring.nrHwcur < t.kring.nkrNumSlots := by
  cases e with
  | txsync user flags =>
      have hhead := txStep_txsync_eq_some hstep
      cases hcarrier : s.np.carrierOk with
      | true =>
          obtain ⟨t', ht', _, _, _, hslots, _, houtcome⟩ :=
            txStep_txsync nm flags hcarrier hcur hhead (L := fun _ => True)
              (Q := fun _ _ _ => True) (fun _ _ _ _ _ _ _ _ => trivial)
              (fun _ _ => trivial) trivial
          rw [hstep] at ht'
          rw [Option.some.inj ht', hslots]
          exact houtcome.nmI_lt
      | false =>
          rw [txStep_txsync_of_no_carrier nm flags hcarrier hhead] at hstep
          have hkeeps := nm.nmTxsyncFinalize_keeps (user.load s.kring)
          rw [← Option.some.inj hstep]
          change (nm.nmTxsyncFinalize (user.load s.kring)).nrHwcur <
            (nm.nmTxsyncFinalize (user.load s.kring)).nkrNumSlots
          rw [hkeeps.nrHwcur, hkeeps.nkrNumSlots]
          exact hcur
  | txInterrupt => exact Option.some.inj hstep ▸ hcur
  | host consume free =>
      obtain ⟨_, rfl⟩ := hostAdvance_eq_some hstep
      exact hcur
  | carrier up => exact Option.some.inj hstep ▸ hcur

end XenNet.TransmitSystem
