import XenNet.NetmapReference
import XenNet.ReceiveImport
import XenNet.ReceiveLoop

namespace XenNet.ReceiveSync

open XenNet.ByteMemory
open XenNet.CopySequence
open XenNet.CyclicIndex
open XenNet.NetmapKernel
open XenNet.NetfrontModel
open XenNet.NetfrontReceive
open XenNet.ReleasedSlots
open XenNet.ReceiveLoop
open XenNet.ReceiveImport

/-- The packets that the shared ring has and the user's ring has room for. -/
def rxFits (kring : NetmapKring) (ring : NetmapRing) : Nat :=
  min (((ring.tail : Int) - ring.cur) % ring.numSlots).toNat
    (((kring.nrHwcur : Int) - 1 - kring.nrHwtail) % kring.nkrNumSlots).toNat

def rxCopy (nm : NetmapApi) (ni : NetmapInfo) (kring : NetmapKring) (t : Nat) : Copy where
  dst := nm.nmb (kring.ring.slot ((kring.nrHwtail + t) % kring.nkrNumSlots)).bufIdx
  src := netfrontBuf ni.rxdBufsBase ((ni.rxRings.cur + t) % ni.rxRings.numSlots)
  len := (ni.rxRings.slot ((ni.rxRings.cur + t) % ni.rxRings.numSlots)).len.toNat

/-- The effect of a call that imports `k` packets. -/
structure RxEffect (nm : NetmapApi) (np : NetfrontInfo) (mem : Nat → UInt8)
    (kring : NetmapKring) (k : Nat) (call : RxCall) : Prop where
  ret : call.ret = 0
  nrHwtail : call.kring.nrHwtail = (kring.nrHwtail + k) % kring.nkrNumSlots
  nrHwcur : call.kring.nrHwcur = kring.ring.head
  sharedIdle : k = 0 → call.np.naPriv.rxRings = np.naPriv.rxRings
  shared : 0 < k → call.np.naPriv.rxRings =
    { np.naPriv.rxRings with
      head := (np.naPriv.rxRings.cur + k) % np.naPriv.rxRings.numSlots
      cur := (np.naPriv.rxRings.cur + k) % np.naPriv.rxRings.numSlots }
  hostNeedRxkick : call.np.naPriv.stat.hostNeedRxkick = false
  notified : call.np.naPriv.rxIrq.sent = np.naPriv.rxIrq.sent + 1
  filled : ∀ t, t < k → call.kring.ring.slot ((kring.nrHwtail + t) % kring.nkrNumSlots) =
    { kring.ring.slot ((kring.nrHwtail + t) % kring.nkrNumSlots) with
      len := (np.naPriv.rxRings.slot
        ((np.naPriv.rxRings.cur + t) % np.naPriv.rxRings.numSlots)).len
      flags := kring.nkrSlotFlags }
  packet : ∀ t, t < k →
    (∀ s, t < s → s < k → ∀ a, (rxCopy nm np.naPriv kring t).Covers a →
      ¬(rxCopy nm np.naPriv kring s).Covers a) →
    userPacket nm call.kring.ring call.mem ((kring.nrHwtail + t) % kring.nkrNumSlots) =
      np.naPriv.rxPacket ((np.naPriv.rxRings.cur + t) % np.naPriv.rxRings.numSlots)
  memory : ∀ a, (∀ t, t < k → ¬(rxCopy nm np.naPriv kring t).Covers a) → call.mem a = mem a
  released : ∀ i, i < kring.nkrNumSlots →
    Within kring.nkrNumSlots kring.nrHwcur kring.ring.head i →
      call.kring.ring.slot i = { kring.ring.slot i with
        flags := (kring.ring.slot i).flags &&& ~~~nm.nsBufChanged }
  untouched : ∀ i, i < kring.nkrNumSlots → k ≤ distance kring.nkrNumSlots kring.nrHwtail i →
    ¬Within kring.nkrNumSlots kring.nrHwcur kring.ring.head i →
      call.kring.ring.slot i = kring.ring.slot i
  head : call.kring.ring.head = kring.ring.head
  headWithin : distance kring.nkrNumSlots call.kring.nrHwcur call.kring.ring.head ≤
    distance kring.nkrNumSlots call.kring.nrHwcur call.kring.nrHwtail

section Effect

variable (nm : NetmapApi) (np : NetfrontInfo) (mem : Nat → UInt8) {kring : NetmapKring}

theorem rxFits_eq (hhwcur : kring.nrHwcur < kring.nkrNumSlots)
    (hhwtail : kring.nrHwtail < kring.nkrNumSlots) {ring : NetmapRing}
    (hcur : ring.cur < ring.numSlots) (htail : ring.tail < ring.numSlots) :
    rxFits kring ring = min (nmRingSpace ring)
      (distance kring.nkrNumSlots kring.nrHwtail
        (nm.nmPrev kring.nrHwcur (kring.nkrNumSlots - 1))) := by
  rw [rxFits, distance_eq_emod (Nat.le_of_lt hcur), nm.distance_nmPrev_eq_emod hhwcur hhwtail,
    nmRingSpace_eq_distance hcur htail]

theorem importCopy_eq_rxCopy (hcur : np.naPriv.rxRings.cur < np.naPriv.rxRings.numSlots) :
    importCopy nm np.naPriv kring.nkrNumSlots (rxImportStart np.naPriv mem kring) =
      rxCopy nm np.naPriv kring := by
  funext t
  simp only [importCopy, rxCopy, rxImportStart, sourceSlot_eq_advance np.naPriv hcur]
  rfl

theorem not_within_of_fits (hvalid : RxHeadValid kring) {t : Nat}
    (ht : t < distance kring.nkrNumSlots kring.nrHwtail
      (nm.nmPrev kring.nrHwcur (kring.nkrNumSlots - 1))) :
    ¬Within kring.nkrNumSlots kring.nrHwcur kring.ring.head
      (advance kring.nkrNumSlots kring.nrHwtail t) := by
  obtain ⟨hhwcur, hhwtail, hhead, hle⟩ := hvalid
  have hroom := nm.distance_add_room hhwcur hhwtail
  rw [Within, distance_advance_right hhwcur hhwtail (by omega)]
  omega

theorem far_of_given_out {k i : Nat} (hhwcur : kring.nrHwcur < kring.nkrNumSlots)
    (hhwtail : kring.nrHwtail < kring.nkrNumSlots) (hi : i < kring.nkrNumSlots)
    (hk : k ≤ distance kring.nkrNumSlots kring.nrHwtail
      (nm.nmPrev kring.nrHwcur (kring.nkrNumSlots - 1)))
    (hwithin : Within kring.nkrNumSlots kring.nrHwcur kring.nrHwtail i) :
    k ≤ distance kring.nkrNumSlots kring.nrHwtail i := by
  have hroom := nm.distance_add_room hhwcur hhwtail
  have hfar := hwithin.sub_le_distance hhwcur hhwtail hi
  omega

theorem publishRx_of_kick {ni : NetmapInfo} (hkick : ni.stat.hostNeedRxkick = true) (k cur : Nat) :
    (k = 0 → (publishRx ni (2 * k) cur).rxRings = ni.rxRings) ∧
      (0 < k → (publishRx ni (2 * k) cur).rxRings =
        { ni.rxRings with head := cur, cur := cur }) ∧
      (publishRx ni (2 * k) cur).stat.hostNeedRxkick = false ∧
      (publishRx ni (2 * k) cur).rxIrq.sent = ni.rxIrq.sent + 1 := by
  rw [publishRx, if_pos hkick]
  refine ⟨?_, ?_, rfl, rfl⟩
  · rintro rfl
    rfl
  · intro hk
    exact if_pos (by omega)

theorem userPacket_filled (hhwtail : kring.nrHwtail < kring.nkrNumSlots) (head : Nat)
    {p t : Nat} (ht : t < p) (hp : p ≤ kring.nkrNumSlots) (mem' : Nat → UInt8) :
    userPacket nm (nm.nmRxsyncFinalize (rxKring nm np mem kring head p)).ring mem'
        (advance kring.nkrNumSlots kring.nrHwtail t) =
      bytes mem' (importCopy nm np.naPriv kring.nkrNumSlots (rxImportStart np.naPriv mem kring)
        t).dst (importCopy nm np.naPriv kring.nkrNumSlots (rxImportStart np.naPriv mem kring)
        t).len := by
  have hkeeps := nm.nmRxsyncFinalize_keeps (rxKring nm np mem kring head p)
  have hsame := samePackets_releasedRing nm kring.nkrNumSlots kring.nrHwcur head
    (rxImportedRing np mem kring p)
  have himported := importedRing_slot_advance np.naPriv kring.nkrSlotFlags
    (show (rxImportStart np.naPriv mem kring).nmI < kring.nkrNumSlots from hhwtail) ht hp
  have hbuf := (hsame.bufIdx (advance kring.nkrNumSlots kring.nrHwtail t)).trans
    (congrArg NetmapSlot.bufIdx himported)
  have hlen := (hsame.len (advance kring.nkrNumSlots kring.nrHwtail t)).trans
    (congrArg NetmapSlot.len himported)
  unfold userPacket
  rw [hkeeps.slot]
  simp only [rxKring, hbuf, hlen]
  rfl

theorem rxKring_slot_filled (hvalid : RxHeadValid kring)
    (hcur : np.naPriv.rxRings.cur < np.naPriv.rxRings.numSlots) {k t : Nat} (ht : t < k)
    (hk : k ≤ distance kring.nkrNumSlots kring.nrHwtail
      (nm.nmPrev kring.nrHwcur (kring.nkrNumSlots - 1))) :
    (rxKring nm np mem kring kring.ring.head k).ring.slot
      (advance kring.nkrNumSlots kring.nrHwtail t) =
        { kring.ring.slot (advance kring.nkrNumSlots kring.nrHwtail t) with
          len := (np.naPriv.rxRings.slot
            (advance np.naPriv.rxRings.numSlots np.naPriv.rxRings.cur t)).len
          flags := kring.nkrSlotFlags } := by
  have hroom := nm.distance_add_room hvalid.1 hvalid.2.1
  have himported := importedRing_slot_advance np.naPriv kring.nkrSlotFlags
    (show (rxImportStart np.naPriv mem kring).nmI < kring.nkrNumSlots from hvalid.2.1) ht
    (by omega)
  rw [← sourceSlot_eq_advance np.naPriv hcur]
  refine Eq.trans (if_neg fun hboth => ?_) himported
  exact not_within_of_fits nm hvalid (Nat.lt_of_lt_of_le ht hk) hboth.2

theorem rxKring_slot_released (hvalid : RxHeadValid kring) {k i : Nat}
    (hi : i < kring.nkrNumSlots)
    (hk : k ≤ distance kring.nkrNumSlots kring.nrHwtail
      (nm.nmPrev kring.nrHwcur (kring.nkrNumSlots - 1)))
    (hwithin : Within kring.nkrNumSlots kring.nrHwcur kring.ring.head i) :
    (rxKring nm np mem kring kring.ring.head k).ring.slot i =
      { kring.ring.slot i with flags := (kring.ring.slot i).flags &&& ~~~nm.nsBufChanged } := by
  have himported := importedRing_slot_of_le np.naPriv kring.nkrSlotFlags kring.nkrNumSlots
    (rxImportStart np.naPriv mem kring) (far_of_given_out nm hvalid.1 hvalid.2.1 hi hk
      (Nat.lt_of_lt_of_le hwithin hvalid.2.2.2))
  refine Eq.trans (if_pos ⟨hi, hwithin⟩) ?_
  rw [himported]
  rfl

theorem rxKring_slot_untouched {k i : Nat}
    (hfar : k ≤ distance kring.nkrNumSlots kring.nrHwtail i)
    (hwithin : ¬Within kring.nkrNumSlots kring.nrHwcur kring.ring.head i) :
    (rxKring nm np mem kring kring.ring.head k).ring.slot i = kring.ring.slot i := by
  refine Eq.trans (if_neg fun hboth => hwithin hboth.2) ?_
  exact importedRing_slot_of_le np.naPriv kring.nkrSlotFlags kring.nkrNumSlots
    (rxImportStart np.naPriv mem kring) hfar

theorem rxEffect_of_good (hvalid : RxHeadValid kring)
    (hcur : np.naPriv.rxRings.cur < np.naPriv.rxRings.numSlots)
    (htail : np.naPriv.rxRings.tail < np.naPriv.rxRings.numSlots)
    (hgood : ∀ i, i < kring.nkrNumSlots →
      nm.nmb (kring.ring.slot i).bufIdx ≠ nm.netmapBufferBase)
    (hkick : np.naPriv.stat.hostNeedRxkick = true) :
    ∃ call, importReceived nm np mem kring kring.ring.head = some call ∧
      RxEffect nm np mem kring (rxFits kring np.naPriv.rxRings) call := by
  have ⟨hhwcur, hhwtail, hhead, hle⟩ := hvalid
  have hn : 0 < kring.nkrNumSlots := Nat.zero_lt_of_lt hhwcur
  have hroom := nm.distance_add_room hhwcur hhwtail
  have hfits := rxFits_eq nm hhwcur hhwtail hcur htail
  have hstops : RxStopsAt nm np mem kring (rxFits kring np.naPriv.rxRings) := by
    rw [hfits]
    exact stopsAt_of_good nm np.naPriv (fun t _ => hgood _ (advance_lt hn _ _)) hkick
  have hnotBad : ¬RxBadAt nm np mem kring (rxFits kring np.naPriv.rxRings) :=
    fun hbad => hgood _ (advance_lt hn _ _) hbad.2
  generalize rxFits kring np.naPriv.rxRings = k at hfits hstops hnotBad ⊢
  have hk : k ≤ distance kring.nkrNumSlots kring.nrHwtail
      (nm.nmPrev kring.nrHwcur (kring.nkrNumSlots - 1)) := by omega
  have hkeeps := nm.nmRxsyncFinalize_keeps (rxKring nm np mem kring kring.ring.head k)
  have hpublish := publishRx_of_kick hkick k (sourceSlot np.naPriv np.naPriv.rxRings.cur k)
  rw [sourceSlot_eq_advance np.naPriv hcur] at hpublish
  refine ⟨_, importReceived_of_good nm np mem hhwcur hhwtail hhead hstops hnotBad, ?_⟩
  rw [sourceSlot_eq_advance np.naPriv hcur]
  refine ⟨rfl, hkeeps.nrHwtail, hkeeps.nrHwcur, hpublish.1, hpublish.2.1, hpublish.2.2.1,
    hpublish.2.2.2, ?_, ?_, ?_, ?_, ?_, hkeeps.head, ?_⟩
  · intro t ht
    rw [hkeeps.slot]
    exact rxKring_slot_filled nm np mem hvalid hcur ht hk
  · intro t ht hlater
    refine (userPacket_filled nm np mem hhwtail _ ht (by omega) _).trans ?_
    rw [rxCopies, importCopy_eq_rxCopy nm np mem hcur]
    exact bytes_copies np.naPriv.bufs mem ht hlater
  · intro a houtside
    refine copies_outside _ _ ?_
    rw [importCopy_eq_rxCopy nm np mem hcur]
    exact houtside
  · intro i hi hwithin
    rw [hkeeps.slot]
    exact rxKring_slot_released nm np mem hvalid hi hk hwithin
  · intro i _ hfar hwithin
    rw [hkeeps.slot]
    exact rxKring_slot_untouched nm np mem hfar hwithin
  · rw [hkeeps.nrHwcur, hkeeps.head]
    change distance kring.nkrNumSlots kring.ring.head kring.ring.head ≤ _
    rw [distance_self hhead]
    exact Nat.zero_le _

theorem rxCopy_of_keeps (ni : NetmapInfo) {kring' : NetmapKring}
    (hkeeps : KeepsDriverState kring kring') : rxCopy nm ni kring' = rxCopy nm ni kring := by
  funext t
  simp only [rxCopy, hkeeps.slot, hkeeps.nrHwtail, hkeeps.nkrNumSlots]

theorem RxEffect.of_keeps {kring' : NetmapKring} {k : Nat} {call : RxCall}
    (hkeeps : KeepsDriverState kring kring') (heffect : RxEffect nm np mem kring' k call) :
    RxEffect nm np mem kring k call := by
  obtain ⟨hret, hhwtail, hhwcur, hidle, hshared, hkick, hsent, hfilled, hpacket, hmem, hreleased,
    huntouched, hhead, hwithin⟩ := heffect
  rw [rxCopy_of_keeps nm np.naPriv hkeeps] at hpacket hmem
  rw [hkeeps.nkrNumSlots] at hhwtail hfilled hpacket hreleased huntouched hwithin
  rw [hkeeps.nrHwtail] at hhwtail hfilled hpacket huntouched
  rw [hkeeps.nrHwcur, hkeeps.head] at hreleased huntouched
  rw [hkeeps.slot] at hfilled hreleased huntouched
  rw [hkeeps.nkrSlotFlags] at hfilled
  rw [hkeeps.head] at hhwcur hhead
  exact ⟨hret, hhwtail, hhwcur, hidle, hshared, hkick, hsent, hfilled, hpacket, hmem, hreleased,
    huntouched, hhead, hwithin⟩

theorem rxFits_of_keeps {kring' : NetmapKring} (hkeeps : KeepsDriverState kring kring')
    (ring : NetmapRing) : rxFits kring' ring = rxFits kring ring := by
  rw [rxFits, rxFits, hkeeps.nrHwcur, hkeeps.nrHwtail, hkeeps.nkrNumSlots]

theorem rxsync_of_accept (flags : UInt32)
    (haccept : (nm.nmRxsyncPrologue kring).2 < kring.nkrNumSlots) :
    netfrontNetmapRxsync nm np mem kring flags =
      if importEnabled nm (nm.nmRxsyncPrologue kring).1 flags then
        importReceived nm np mem (nm.nmRxsyncPrologue kring).1 kring.ring.head
      else skipReleased nm np mem (nm.nmRxsyncPrologue kring).1 kring.ring.head := by
  obtain ⟨heq, hvalid⟩ := nm.nmRxsyncPrologue_sound kring haccept
  have hkeeps := nm.nmRxsyncPrologue_keeps kring
  have hhead := hvalid.2.2.1
  have hin : ¬ (nm.nmRxsyncPrologue kring).1.nkrNumSlots - 1 < kring.ring.head := by
    rw [hkeeps.nkrNumSlots]
    omega
  simp only [netfrontNetmapRxsync, heq, if_neg hin]

/-- A call that may import brings in what there is and what fits. The bytes of a packet
arrive, unless a later packet of the call is copied over them. -/
theorem rxsync_imports (flags : UInt32)
    (haccept : (nm.nmRxsyncPrologue kring).2 < kring.nkrNumSlots)
    (henabled : importEnabled nm kring flags = true)
    (hcur : np.naPriv.rxRings.cur < np.naPriv.rxRings.numSlots)
    (htail : np.naPriv.rxRings.tail < np.naPriv.rxRings.numSlots)
    (hgood : ∀ i, i < kring.nkrNumSlots →
      nm.nmb (kring.ring.slot i).bufIdx ≠ nm.netmapBufferBase)
    (hkick : np.naPriv.stat.hostNeedRxkick = true) :
    ∃ call, netfrontNetmapRxsync nm np mem kring flags = some call ∧
      RxEffect nm np mem kring (rxFits kring np.naPriv.rxRings) call ∧
      (OwnBuffers nm kring.nkrNumSlots kring.ring →
        (∀ t, t < rxFits kring np.naPriv.rxRings →
          (rxCopy nm np.naPriv kring t).len ≤ netfrontBufSize) →
        ∀ t, t < rxFits kring np.naPriv.rxRings →
          userPacket nm call.kring.ring call.mem ((kring.nrHwtail + t) % kring.nkrNumSlots) =
            np.naPriv.rxPacket
              ((np.naPriv.rxRings.cur + t) % np.naPriv.rxRings.numSlots)) := by
  have hkeeps := nm.nmRxsyncPrologue_keeps kring
  obtain ⟨heq, hvalid⟩ := nm.nmRxsyncPrologue_sound kring haccept
  generalize hafter : (nm.nmRxsyncPrologue kring).1 = kring₁ at hkeeps
  have hvalid₁ : RxHeadValid kring₁ := by
    unfold RxHeadValid
    rw [hkeeps.nkrNumSlots, hkeeps.nrHwcur, hkeeps.nrHwtail, hkeeps.head]
    exact hvalid
  obtain ⟨call, hcall, heffect⟩ := rxEffect_of_good nm np mem hvalid₁ hcur htail
    (by rw [hkeeps.nkrNumSlots, hkeeps.slot]; exact hgood) hkick
  rw [rxFits_of_keeps hkeeps] at heffect
  have heffect := heffect.of_keeps nm np mem hkeeps
  refine ⟨call, ?_, heffect, fun hown hshort t ht => ?_⟩
  · rw [← importEnabled_of_keeps nm flags hkeeps] at henabled
    rw [rxsync_of_accept nm np mem flags haccept, hafter, if_pos henabled, ← hkeeps.head]
    exact hcall
  · have hk : rxFits kring np.naPriv.rxRings ≤ kring.nkrNumSlots := by
      have hroom := nm.distance_add_room hvalid.1 hvalid.2.1
      rw [rxFits_eq nm hvalid.1 hvalid.2.1 hcur htail]
      omega
    rw [← importCopy_eq_rxCopy nm np mem hcur] at hshort
    refine heffect.packet t ht fun s hts hsk a => ?_
    rw [← importCopy_eq_rxCopy nm np mem hcur]
    exact importCopy_apart nm np.naPriv hvalid.2.1 hown hk hshort hts hsk

end Effect

/-- A shared ring of four slots with two packets of one byte, which the host has announced. -/
def twoPending : NetfrontInfo :=
  let shared : NetmapRing :=
    { numSlots := 4, head := 0, cur := 0, tail := 2, slot := fun _ => ⟨0, 1, 0, 0⟩ }
  { carrierOk := true
    naPriv :=
      { txRings := shared
        rxRings := shared
        txdBufsBase := 0
        rxdBufsBase := 0
        bufs := fun a => UInt8.ofNat (a / 2048 + 1)
        stat := { setupNetfrontCsb shared with hostNeedRxkick := true }
        txIrq := ⟨false, 0⟩
        rxIrq := ⟨false, 0⟩ } }

def emptyKring (bufIdx : Nat → UInt32) : NetmapKring where
  nkrNumSlots := 4
  nrHwcur := 0
  nrHwtail := 0
  nkrHwofs := 0
  nrKflags := 0
  nkrSlotFlags := 0
  rhead := 0
  rcur := 0
  rtail := 0
  ring := { numSlots := 4, head := 0, cur := 0, tail := 0, slot := fun i => ⟨bufIdx i, 0, 0, 0⟩ }

theorem rxsync_imports_two :
    ∃ call, netfrontNetmapRxsync NetmapReference.netmapHeaders twoPending (fun _ => 0)
        (emptyKring fun i => UInt32.ofNat (i + 1)) 0 = some call ∧
      call.kring.nrHwtail = 2 := by
  have haccept : (NetmapReference.netmapHeaders.nmRxsyncPrologue
      (emptyKring fun i => UInt32.ofNat (i + 1))).2 < 4 := by decide
  obtain ⟨call, hcall, heffect, _⟩ := rxsync_imports NetmapReference.netmapHeaders twoPending
    (fun _ => 0) 0 haccept (by decide) (by decide) (by decide) (by decide) rfl
  exact ⟨call, hcall, heffect.nrHwtail.trans (by decide)⟩

/-- Where two slots of the user share a buffer, the second packet takes the place of the
first. -/
theorem rxsync_imports_fails :
    ¬ ∀ (nm : NetmapApi) (np : NetfrontInfo) (mem : Nat → UInt8) (kring : NetmapKring)
      (flags : UInt32), (nm.nmRxsyncPrologue kring).2 < kring.nkrNumSlots →
      importEnabled nm kring flags = true →
      np.naPriv.rxRings.cur < np.naPriv.rxRings.numSlots →
      np.naPriv.rxRings.tail < np.naPriv.rxRings.numSlots →
      (∀ i, i < kring.nkrNumSlots →
        nm.nmb (kring.ring.slot i).bufIdx ≠ nm.netmapBufferBase) →
      np.naPriv.stat.hostNeedRxkick = true →
      ∃ call, netfrontNetmapRxsync nm np mem kring flags = some call ∧
        ∀ t, t < rxFits kring np.naPriv.rxRings →
          userPacket nm call.kring.ring call.mem ((kring.nrHwtail + t) % kring.nkrNumSlots) =
            np.naPriv.rxPacket ((np.naPriv.rxRings.cur + t) % np.naPriv.rxRings.numSlots) := by
  intro halways
  obtain ⟨call, hcall, hpackets⟩ := halways NetmapReference.netmapHeaders twoPending
    (fun _ => 0) (emptyKring fun _ => 1) 0 (by decide) (by decide) (by decide) (by decide)
    (by decide) rfl
  have hwrong : (netfrontNetmapRxsync NetmapReference.netmapHeaders twoPending (fun _ => 0)
      (emptyKring fun _ => 1) 0).any (fun call =>
        userPacket NetmapReference.netmapHeaders call.kring.ring call.mem 0 !=
          twoPending.naPriv.rxPacket 0) = true := by decide
  have hfirst := hpackets 0 (by decide)
  rw [hcall] at hwrong
  exact bne_iff_ne.mp hwrong hfirst

end XenNet.ReceiveSync
