import XenNet.RingSegment
import XenNet.ReceiveImport

namespace XenNet.ReceiveLoop

open XenNet.ByteMemory
open XenNet.CopySequence
open XenNet.CyclicIndex
open XenNet.RingSegment
open XenNet.NetmapKernel
open XenNet.NetfrontModel
open XenNet.NetfrontReceive
open XenNet.ReleasedSlots
open XenNet.ReceiveImport

def userPacket (nm : NetmapApi) (ring : NetmapRing) (mem : Nat → UInt8) (i : Nat) :
    List UInt8 :=
  bytes mem (nm.nmb (ring.slot i).bufIdx) (ring.slot i).len.toNat

/-- Each slot of the user's ring has a buffer of its own, and none the bad one. -/
structure OwnBuffers (nm : NetmapApi) (n : Nat) (ring : NetmapRing) : Prop where
  good : ∀ i, i < n → nm.nmb (ring.slot i).bufIdx ≠ nm.netmapBufferBase
  apart : ∀ i j, i < n → j < n → i ≠ j →
    nm.nmb (ring.slot i).bufIdx + netfrontBufSize ≤ nm.nmb (ring.slot j).bufIdx ∨
      nm.nmb (ring.slot j).bufIdx + netfrontBufSize ≤ nm.nmb (ring.slot i).bufIdx

theorem OwnBuffers.congr {nm : NetmapApi} {n : Nat} {ring ring' : NetmapRing}
    (hown : OwnBuffers nm n ring)
    (hbuf : ∀ i, (ring'.slot i).bufIdx = (ring.slot i).bufIdx) : OwnBuffers nm n ring' := by
  refine ⟨fun i hi => ?_, fun i j hi hj hne => ?_⟩
  · rw [hbuf]
    exact hown.good i hi
  · rw [hbuf, hbuf]
    exact hown.apart i j hi hj hne

section Import

variable (nm : NetmapApi) (ni : NetmapInfo) (slotFlags : UInt16)

/-- The variables of the loop after `k` packets, for a loop that started with `st`. -/
structure Imported (n k : Nat) (st st' : RxImport) : Prop where
  nmI : st'.nmI = advance n st.nmI k
  n_eq : st'.n = st.n + 2 * k
  cur : st'.cur = advance ni.rxRings.numSlots st.cur k
  ring_head : st'.ring.head = st.ring.head
  ring_cur : st'.ring.cur = st.ring.cur
  bufIdx : ∀ i, (st'.ring.slot i).bufIdx = (st.ring.slot i).bufIdx
  frame : ∀ i, i < n → k ≤ distance n st.nmI i →
    st'.ring.slot i = st.ring.slot i ∧
      bytes st'.mem (nm.nmb (st.ring.slot i).bufIdx) netfrontBufSize =
        bytes st.mem (nm.nmb (st.ring.slot i).bufIdx) netfrontBufSize
  short : ∀ t, t < k → (st'.ring.slot (advance n st.nmI t)).len.toNat ≤ netfrontBufSize
  packets : contents n (userPacket nm st'.ring st'.mem) st.nmI k =
    contents ni.rxRings.numSlots ni.rxPacket st.cur k

theorem advance_ne_of_far {n : Nat} {st : RxImport} (hnmI : st.nmI < n) {k i t : Nat}
    (hk : k ≤ n) (hfar : k ≤ distance n st.nmI i) (ht : t < k) : i ≠ advance n st.nmI t := by
  rintro rfl
  rw [distance_advance hnmI (by omega)] at hfar
  omega

theorem importCopy_misses {n : Nat} {st : RxImport} (hown : OwnBuffers nm n st.ring)
    {i t a : Nat} (hi : i < n) (hne : i ≠ advance n st.nmI t)
    (hlen : (importCopy nm ni n st t).len ≤ netfrontBufSize)
    (hlow : nm.nmb (st.ring.slot i).bufIdx ≤ a)
    (hhigh : a < nm.nmb (st.ring.slot i).bufIdx + netfrontBufSize) :
    ¬(importCopy nm ni n st t).Covers a := by
  have hapart := hown.apart i _ hi (advance_lt (by omega) st.nmI t) hne
  rintro ⟨hstart, hend⟩
  change nm.nmb (st.ring.slot (advance n st.nmI t)).bufIdx ≤ a at hstart
  change a < nm.nmb (st.ring.slot (advance n st.nmI t)).bufIdx + _ at hend
  omega

theorem importCopy_apart {n : Nat} {st : RxImport} (hnmI : st.nmI < n)
    (hown : OwnBuffers nm n st.ring) {k : Nat} (hk : k ≤ n)
    (hlen : ∀ t, t < k → (importCopy nm ni n st t).len ≤ netfrontBufSize) {t s a : Nat}
    (hts : t < s) (hsk : s < k) (hcovers : (importCopy nm ni n st t).Covers a) :
    ¬(importCopy nm ni n st s).Covers a := by
  rintro ⟨hlow, hhigh⟩
  have hfar : s ≤ distance n st.nmI (advance n st.nmI s) :=
    Nat.le_of_eq (distance_advance hnmI (by omega)).symm
  have hne := advance_ne_of_far hnmI (by omega) hfar hts
  refine importCopy_misses nm ni hown (advance_lt (by omega) _ s) hne (hlen t (by omega)) hlow
    (Nat.lt_of_lt_of_le hhigh ?_) hcovers
  exact Nat.add_le_add_left (hlen s hsk) _

theorem imported_spec {n : Nat} {st : RxImport} (hnmI : st.nmI < n)
    (hcur : st.cur < ni.rxRings.numSlots) (hown : OwnBuffers nm n st.ring) {k : Nat}
    (hk : k ≤ n) (hshort : ∀ t, t < k →
      (ni.rxRings.slot (advance ni.rxRings.numSlots st.cur t)).len.toNat ≤ netfrontBufSize) :
    Imported nm ni n k st (imported nm ni slotFlags n st k) := by
  have hlen : ∀ t, t < k → (importCopy nm ni n st t).len ≤ netfrontBufSize := by
    intro t ht
    simp only [importCopy, sourceSlot_eq_advance ni hcur]
    exact hshort t ht
  have hslot : ∀ t, t < k →
      (importedRing ni slotFlags n st k).slot (advance n st.nmI t) =
        { st.ring.slot (advance n st.nmI t) with
          len := (ni.rxRings.slot (advance ni.rxRings.numSlots st.cur t)).len
          flags := slotFlags } := by
    intro t ht
    rw [importedRing_slot_advance ni slotFlags hnmI ht hk, sourceSlot_eq_advance ni hcur]
  refine ⟨rfl, rfl, sourceSlot_eq_advance ni hcur k, rfl, rfl,
    importedRing_bufIdx ni slotFlags n st k, ?_, ?_, ?_⟩
  · intro i hi hfar
    refine ⟨importedRing_slot_of_le ni slotFlags n st hfar, bytes_congr fun o ho => ?_⟩
    exact copies_outside _ _ fun t ht => importCopy_misses nm ni hown hi
      (advance_ne_of_far hnmI hk hfar ht) (hlen t ht) (Nat.le_add_right _ _) (by omega)
  · intro t ht
    change ((importedRing ni slotFlags n st k).slot _).len.toNat ≤ _
    rw [hslot t ht]
    exact hshort t ht
  · unfold contents span
    rw [List.map_map, List.map_map]
    apply List.map_congr_left
    intro t ht
    have ht := List.mem_range.mp ht
    have harrives := bytes_copies ni.bufs st.mem ht fun r htr hrk a =>
      importCopy_apart nm ni hnmI hown hk hlen htr hrk
    simp only [Function.comp_apply, userPacket, NetmapInfo.rxPacket, imported]
    rw [hslot t ht]
    simp only [importCopy, sourceSlot_eq_advance ni hcur] at harrives
    exact harrives

end Import

theorem skipReleased_spec (nm : NetmapApi) (np : NetfrontInfo) (mem : Nat → UInt8)
    (kring : NetmapKring) {head : Nat} (hhead : head < kring.nkrNumSlots)
    (hcur : kring.nrHwcur < kring.nkrNumSlots) :
    ∃ kring', skipReleased nm np mem kring head = some ⟨np, kring', mem, 0⟩ ∧
      kring'.nkrNumSlots = kring.nkrNumSlots ∧ kring'.nrHwcur = head ∧
      kring'.nrHwtail = kring.nrHwtail ∧ SamePackets kring.ring kring'.ring := by
  obtain ⟨ring, hloop, hsame⟩ :=
    releaseLoop_spec nm hhead kring.nkrNumSlots kring.nrHwcur kring.ring hcur
      (distance_lt (Nat.zero_lt_of_lt hhead) _ _)
  let kring₁ := { kring with nrHwcur := head, ring := ring }
  have hkeeps := nm.nmRxsyncFinalize_keeps kring₁
  refine ⟨nm.nmRxsyncFinalize kring₁, ?_, hkeeps.nkrNumSlots, hkeeps.nrHwcur,
    hkeeps.nrHwtail, hkeeps.head.trans hsame.head, hkeeps.cur.trans hsame.cur, ?_, ?_⟩
  · simp only [skipReleased, hloop]
    rfl
  · intro i
    rw [hkeeps.slot]
    exact hsame.bufIdx i
  · intro i
    rw [hkeeps.slot]
    exact hsame.len i

def rxImported (nm : NetmapApi) (ni : NetmapInfo) (kring : NetmapKring) (flags : UInt32) :
    Nat :=
  if importEnabled nm kring flags ∧ ni.stat.hostNeedRxkick = true then
    min (distance ni.rxRings.numSlots ni.rxRings.cur ni.rxRings.tail)
      (distance kring.nkrNumSlots kring.nrHwtail
        (nm.nmPrev kring.nrHwcur (kring.nkrNumSlots - 1)))
  else 0

/-- The effect of a call that imports `k` packets. -/
structure RxOutcome (nm : NetmapApi) (np : NetfrontInfo) (mem : Nat → UInt8)
    (kring : NetmapKring) (flags : UInt32) (k : Nat) (call : RxCall) : Prop where
  np_eq : call.np =
    if importEnabled nm kring flags then
      { np with
        naPriv := publishRx np.naPriv (2 * k)
          (advance np.naPriv.rxRings.numSlots np.naPriv.rxRings.cur k) }
    else np
  nkrNumSlots : call.kring.nkrNumSlots = kring.nkrNumSlots
  nrHwcur : call.kring.nrHwcur = kring.ring.head
  nrHwtail : call.kring.nrHwtail = advance kring.nkrNumSlots kring.nrHwtail k
  head : call.kring.ring.head = kring.ring.head
  cur : call.kring.ring.cur = kring.ring.cur
  bufIdx : ∀ i, (call.kring.ring.slot i).bufIdx = (kring.ring.slot i).bufIdx
  frame : ∀ i, i < kring.nkrNumSlots → k ≤ distance kring.nkrNumSlots kring.nrHwtail i →
    (call.kring.ring.slot i).len = (kring.ring.slot i).len ∧
      bytes call.mem (nm.nmb (kring.ring.slot i).bufIdx) netfrontBufSize =
        bytes mem (nm.nmb (kring.ring.slot i).bufIdx) netfrontBufSize
  packets : contents kring.nkrNumSlots (userPacket nm call.kring.ring call.mem)
      kring.nrHwtail k =
    contents np.naPriv.rxRings.numSlots np.naPriv.rxPacket np.naPriv.rxRings.cur k
  ret : call.ret = 0

theorem userPacket_of_samePackets {nm : NetmapApi} {ring ring' : NetmapRing}
    (hsame : SamePackets ring ring') (mem : Nat → UInt8) :
    userPacket nm ring' mem = userPacket nm ring mem := by
  funext i
  unfold userPacket
  rw [hsame.bufIdx, hsame.len]

section Call

variable (nm : NetmapApi) (np : NetfrontInfo) (mem : Nat → UInt8) {kring : NetmapKring}
  (flags : UInt32)

theorem importEnabled_of_keeps {kring' : NetmapKring}
    (hkeeps : KeepsDriverState kring kring') :
    importEnabled nm kring' flags = importEnabled nm kring flags := by
  unfold importEnabled forceUpdate
  rw [hkeeps.nrKflags]

theorem rxImported_of_keeps {kring' : NetmapKring} (ni : NetmapInfo)
    (hkeeps : KeepsDriverState kring kring') :
    rxImported nm ni kring' flags = rxImported nm ni kring flags := by
  unfold rxImported
  rw [importEnabled_of_keeps nm flags hkeeps, hkeeps.nkrNumSlots, hkeeps.nrHwcur,
    hkeeps.nrHwtail]

theorem RxOutcome.of_keeps {kring' : NetmapKring} {k : Nat} {call : RxCall}
    (hkeeps : KeepsDriverState kring kring')
    (houtcome : RxOutcome nm np mem kring' flags k call) :
    RxOutcome nm np mem kring flags k call := by
  obtain ⟨hnp, hslots, hhwcur, hhwtail, hhead, hcur, hbuf, hframe, hpackets, hret⟩ := houtcome
  rw [importEnabled_of_keeps nm flags hkeeps] at hnp
  rw [hkeeps.nkrNumSlots] at hslots hhwtail hframe hpackets
  rw [hkeeps.nrHwtail] at hhwtail hframe hpackets
  rw [hkeeps.head] at hhwcur hhead
  rw [hkeeps.cur] at hcur
  rw [hkeeps.slot] at hbuf hframe
  exact ⟨hnp, hslots, hhwcur, hhwtail, hhead, hcur, hbuf, hframe, hpackets, hret⟩

theorem rxStopsAt_rxImported (henabled : importEnabled nm kring flags = true)
    (hcur : np.naPriv.rxRings.cur < np.naPriv.rxRings.numSlots)
    (htail : np.naPriv.rxRings.tail < np.naPriv.rxRings.numSlots)
    (hgood : ∀ i, i < kring.nkrNumSlots →
      nm.nmb (kring.ring.slot i).bufIdx ≠ nm.netmapBufferBase)
    (hslots : 0 < kring.nkrNumSlots) :
    RxStopsAt nm np mem kring (rxImported nm np.naPriv kring flags) := by
  unfold rxImported
  cases hkick : np.naPriv.stat.hostNeedRxkick with
  | true =>
      rw [if_pos ⟨henabled, rfl⟩, ← nmRingSpace_eq_distance hcur htail]
      exact stopsAt_of_good nm np.naPriv (fun t _ => hgood _ (advance_lt hslots _ _)) hkick
  | false =>
      rw [if_neg (by simp)]
      refine ⟨fun t ht => absurd ht (Nat.not_lt_zero t), fun hgoes => ?_⟩
      exact Bool.false_ne_true (hkick.symm.trans hgoes.2.2.1)

theorem importLoop_spec (henabled : importEnabled nm kring flags = true)
    (hhwcur : kring.nrHwcur < kring.nkrNumSlots)
    (hhwtail : kring.nrHwtail < kring.nkrNumSlots)
    (hcur : np.naPriv.rxRings.cur < np.naPriv.rxRings.numSlots)
    (htail : np.naPriv.rxRings.tail < np.naPriv.rxRings.numSlots)
    (hown : OwnBuffers nm kring.nkrNumSlots kring.ring)
    (hshort : ∀ i, i < np.naPriv.rxRings.numSlots →
      Within np.naPriv.rxRings.numSlots np.naPriv.rxRings.cur np.naPriv.rxRings.tail i →
        (np.naPriv.rxRings.slot i).len.toNat ≤ netfrontBufSize) :
    ∃ st, importLoop nm np.naPriv kring.nkrSlotFlags
        (nm.nmPrev kring.nrHwcur (kring.nkrNumSlots - 1)) (kring.nkrNumSlots - 1)
        kring.nkrNumSlots (rxImportStart np.naPriv mem kring) = some (false, st) ∧
      Imported nm np.naPriv kring.nkrNumSlots (rxImported nm np.naPriv kring flags)
        (rxImportStart np.naPriv mem kring) st := by
  have hn := Nat.zero_lt_of_lt hhwcur
  have hm := Nat.zero_lt_of_lt hcur
  have hstops := rxStopsAt_rxImported nm np mem flags henabled hcur htail hown.good hn
  generalize rxImported nm np.naPriv kring flags = p at hstops
  have hnotBad : ¬RxBadAt nm np mem kring p :=
    fun hbad => hown.good _ (advance_lt hn _ _) hbad.2
  have hp : p ≤ kring.nkrNumSlots :=
    Nat.le_trans hstops.le_room (Nat.le_of_lt (distance_lt hn _ _))
  have hloop := importLoop_of_rxStopsAt nm np mem hhwcur hhwtail hstops
  rw [decide_eq_false hnotBad] at hloop
  refine ⟨_, hloop, imported_spec nm np.naPriv kring.nkrSlotFlags hhwtail hcur hown hp ?_⟩
  intro t ht
  have hpending : t < nmRingSpace np.naPriv.rxRings := (hstops.passed t ht).2.2.2
  rw [nmRingSpace_eq_distance hcur htail] at hpending
  exact hshort _ (advance_lt hm _ _) ((within_advance_iff hcur
    (Nat.lt_trans hpending (distance_lt hm _ _))).mpr hpending)

theorem importReceived_spec (henabled : importEnabled nm kring flags = true)
    (hhwcur : kring.nrHwcur < kring.nkrNumSlots)
    (hhwtail : kring.nrHwtail < kring.nkrNumSlots)
    (hhead : kring.ring.head < kring.nkrNumSlots)
    (hcur : np.naPriv.rxRings.cur < np.naPriv.rxRings.numSlots)
    (htail : np.naPriv.rxRings.tail < np.naPriv.rxRings.numSlots)
    (hown : OwnBuffers nm kring.nkrNumSlots kring.ring)
    (hshort : ∀ i, i < np.naPriv.rxRings.numSlots →
      Within np.naPriv.rxRings.numSlots np.naPriv.rxRings.cur np.naPriv.rxRings.tail i →
        (np.naPriv.rxRings.slot i).len.toNat ≤ netfrontBufSize) :
    ∃ call, importReceived nm np mem kring kring.ring.head = some call ∧
      RxOutcome nm np mem kring flags (rxImported nm np.naPriv kring flags) call := by
  obtain ⟨st, hloop, himported⟩ :=
    importLoop_spec nm np mem flags henabled hhwcur hhwtail hcur htail hown hshort
  obtain ⟨hnmI, hcount, hcur', hringHead, hringCur, hbuf, hframe, _, hpackets⟩ := himported
  generalize hk : rxImported nm np.naPriv kring flags = k at *
  have hcount : st.n = 2 * k := by
    rw [hcount]
    exact Nat.zero_add _
  let kring₁ : NetmapKring :=
    { kring with
      nrHwtail := if st.n ≠ 0 then st.nmI else kring.nrHwtail
      nrKflags := kring.nrKflags &&& ~~~nm.nkrPendintr
      ring := st.ring }
  have hhwtail₁ : kring₁.nrHwtail = advance kring.nkrNumSlots kring.nrHwtail k := by
    change (if st.n ≠ 0 then st.nmI else kring.nrHwtail) = _
    split_ifs with hnone
    · exact hnmI
    · have hzero : k = 0 := by omega
      rw [hzero, advance_zero hhwtail]
  obtain ⟨kring', hskip, hslots, hhwcur', hhwtail', hsame⟩ :=
    skipReleased_spec nm { np with naPriv := publishRx np.naPriv st.n st.cur } st.mem
      kring₁ hhead hhwcur
  refine ⟨_, by simp only [importReceived, hloop]; exact hskip, ?_, hslots, hhwcur',
    hhwtail'.trans hhwtail₁, hsame.head.trans hringHead, hsame.cur.trans hringCur, ?_, ?_,
    ?_, rfl⟩
  · rw [if_pos henabled, hcount, hcur']
    rfl
  · intro i
    exact (hsame.bufIdx i).trans (hbuf i)
  · intro i hi hfar
    obtain ⟨hslot, hbytes⟩ := hframe i hi hfar
    exact ⟨(hsame.len i).trans (congrArg NetmapSlot.len hslot), hbytes⟩
  · rw [userPacket_of_samePackets hsame]
    exact hpackets

/-- A call on a valid kring returns, and imports what there is and what fits. -/
theorem rxsync_spec (hvalid : RxHeadValid kring) (hvalidCur : RxCurValid kring)
    (hcur : np.naPriv.rxRings.cur < np.naPriv.rxRings.numSlots)
    (htail : np.naPriv.rxRings.tail < np.naPriv.rxRings.numSlots)
    (hown : OwnBuffers nm kring.nkrNumSlots kring.ring)
    (hshort : ∀ i, i < np.naPriv.rxRings.numSlots →
      Within np.naPriv.rxRings.numSlots np.naPriv.rxRings.cur np.naPriv.rxRings.tail i →
        (np.naPriv.rxRings.slot i).len.toNat ≤ netfrontBufSize) :
    ∃ call, netfrontNetmapRxsync nm np mem kring flags = some call ∧
      RxOutcome nm np mem kring flags (rxImported nm np.naPriv kring flags) call := by
  have hkeeps := nm.nmRxsyncPrologue_keeps kring
  have haccept := nm.nmRxsyncPrologue_accepts kring hvalid hvalidCur
  obtain ⟨hhwcur, hhwtail, hhead, _⟩ := hvalid
  generalize hafter : (nm.nmRxsyncPrologue kring).1 = kring₁ at hkeeps
  rw [← hkeeps.nrHwcur, ← hkeeps.nkrNumSlots] at hhwcur
  rw [← hkeeps.nrHwtail, ← hkeeps.nkrNumSlots] at hhwtail
  rw [← hkeeps.head, ← hkeeps.nkrNumSlots] at hhead
  rw [← hkeeps.head] at haccept
  have hown₁ : OwnBuffers nm kring₁.nkrNumSlots kring₁.ring := by
    rw [hkeeps.nkrNumSlots]
    exact hown.congr fun i => by rw [hkeeps.slot]
  have hin : ¬ kring₁.nkrNumSlots - 1 < kring₁.ring.head := by omega
  cases henabled : importEnabled nm kring₁ flags with
  | true =>
      obtain ⟨call, hcall, houtcome⟩ :=
        importReceived_spec nm np mem flags henabled hhwcur hhwtail hhead hcur htail hown₁
          hshort
      refine ⟨call, ?_, ?_⟩
      · simp only [netfrontNetmapRxsync, hafter, haccept, if_neg hin, henabled]
        exact hcall
      · rw [← rxImported_of_keeps nm flags np.naPriv hkeeps]
        exact houtcome.of_keeps nm np mem flags hkeeps
  | false =>
      obtain ⟨kring', hskip, hslots, hhwcur', hhwtail', hsame⟩ :=
        skipReleased_spec nm np mem kring₁ hhead hhwcur
      refine ⟨⟨np, kring', mem, 0⟩, ?_, ?_⟩
      · simp only [netfrontNetmapRxsync, hafter, haccept, if_neg hin, henabled]
        exact hskip
      · rw [← rxImported_of_keeps nm flags np.naPriv hkeeps]
        have hnone : rxImported nm np.naPriv kring₁ flags = 0 := by
          simp [rxImported, henabled]
        rw [hnone]
        refine RxOutcome.of_keeps nm np mem flags hkeeps ⟨?_, hslots, hhwcur', ?_,
          hsame.head, hsame.cur, hsame.bufIdx, ?_, rfl, rfl⟩
        · simp [henabled]
        · rw [hhwtail', advance_zero hhwtail]
        · exact fun i _ _ => ⟨hsame.len i, rfl⟩

theorem rxsync_np_cases {call : RxCall}
    (hcall : netfrontNetmapRxsync nm np mem kring flags = some call) :
    call.np = np ∨
      ∃ st, importLoop nm np.naPriv (nm.nmRxsyncPrologue kring).1.nkrSlotFlags
          (nm.nmPrev (nm.nmRxsyncPrologue kring).1.nrHwcur
            ((nm.nmRxsyncPrologue kring).1.nkrNumSlots - 1))
          ((nm.nmRxsyncPrologue kring).1.nkrNumSlots - 1)
          (nm.nmRxsyncPrologue kring).1.nkrNumSlots
          (rxImportStart np.naPriv mem (nm.nmRxsyncPrologue kring).1) = some (false, st) ∧
        call.np = { np with naPriv := publishRx np.naPriv st.n st.cur } := by
  have hskip : ∀ {np' mem' kring' head},
      skipReleased nm np' mem' kring' head = some call → call.np = np' := by
    intro np' mem' kring' head hskipped
    unfold skipReleased at hskipped
    split at hskipped
    · contradiction
    · rw [← Option.some.inj hskipped]
  simp only [netfrontNetmapRxsync] at hcall
  split_ifs at hcall
  · rw [← Option.some.inj hcall]
    exact Or.inl rfl
  · unfold importReceived at hcall
    split at hcall
    · contradiction
    · rw [← Option.some.inj hcall]
      exact Or.inl rfl
    · rename_i st hloop
      exact Or.inr ⟨st, hloop, hskip hcall⟩
  · exact Or.inl (hskip hcall)

end Call

end XenNet.ReceiveLoop
