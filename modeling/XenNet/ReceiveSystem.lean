import XenNet.NetmapReference
import XenNet.TransitionSystem
import XenNet.ReceiveLoop

namespace XenNet.ReceiveSystem

open XenNet.ByteMemory
open XenNet.CyclicIndex
open XenNet.RingSegment
open XenNet.TransitionSystem
open XenNet.NetmapKernel
open XenNet.NetmapReference
open XenNet.NetfrontModel
open XenNet.NetfrontReceive
open XenNet.ReceiveLoop

/-- `mem` is the memory of the netmap buffers. The last two fields record what the host delivered
and what the user was shown; no step looks at them. -/
structure RxSystem where
  np : NetfrontInfo
  kring : NetmapKring
  mem : Nat → UInt8
  delivered : List (List UInt8)
  visible : List (List UInt8)

inductive RxEvent where
  | deliver (packet : List UInt8)
  | rxInterrupt
  | release (head cur : Nat)
  | rxsync (flags : UInt32)

def deliverPacket (ni : NetmapInfo) (packet : List UInt8) : NetmapInfo :=
  let tail := ni.rxRings.tail
  { ni with
    bufs := memcpy ni.bufs (netfrontBuf ni.rxdBufsBase tail) (ofList packet 0) 0
      packet.length
    rxRings := { ni.rxRings.setSlot tail
        { ni.rxRings.slot tail with len := UInt16.ofNat packet.length } with
      tail := netmapRingNext ni.rxRings tail } }

def releaseTo (kring : NetmapKring) (head cur : Nat) : NetmapKring :=
  { kring with ring := { kring.ring with head := head, cur := cur } }

namespace RxSystem

def ring (s : RxSystem) : NetmapRing :=
  s.np.naPriv.rxRings

def pending (s : RxSystem) : Nat :=
  distance s.ring.numSlots s.ring.cur s.ring.tail

end RxSystem

def rxStep (nm : NetmapApi) (s : RxSystem) : RxEvent → Option RxSystem
  | .deliver packet =>
      if packet.length ≤ netfrontBufSize ∧ netmapRingNext s.ring s.ring.tail ≠ s.ring.head then
        some
          { s with
            np := { s.np with naPriv := deliverPacket s.np.naPriv packet }
            delivered := s.delivered ++ [packet] }
      else none
  | .rxInterrupt => some { s with np := netfrontRxInterrupt s.np }
  | .release head cur =>
      if RxHeadValid (releaseTo s.kring head cur) ∧
          RxCurValid (releaseTo s.kring head cur) then
        some { s with kring := releaseTo s.kring head cur }
      else none
  | .rxsync flags =>
      match netfrontNetmapRxsync nm s.np s.mem s.kring flags with
      | some call =>
          some
            { s with
              np := call.np
              kring := call.kring
              mem := call.mem
              visible := s.visible ++ contents s.kring.nkrNumSlots
                (userPacket nm call.kring.ring call.mem) s.kring.nrHwtail
                (distance s.kring.nkrNumSlots s.kring.nrHwtail call.kring.nrHwtail) }
      | none => none

/-- The packets shown to the user and then those still in the shared ring are the packets
that the host delivered. -/
def RxFifo (s : RxSystem) : Prop :=
  s.visible ++ contents s.ring.numSlots s.np.naPriv.rxPacket s.ring.cur s.pending =
    s.delivered

def ShortPending (ni : NetmapInfo) : Prop :=
  ∀ i, i < ni.rxRings.numSlots →
    Within ni.rxRings.numSlots ni.rxRings.cur ni.rxRings.tail i →
      (ni.rxRings.slot i).len.toNat ≤ netfrontBufSize

structure RxWellFormed (nm : NetmapApi) (s : RxSystem) : Prop where
  cur_lt : s.ring.cur < s.ring.numSlots
  tail_lt : s.ring.tail < s.ring.numSlots
  head_eq : s.ring.head = s.ring.cur
  short : ShortPending s.np.naPriv
  headValid : RxHeadValid s.kring
  curValid : RxCurValid s.kring
  own : OwnBuffers nm s.kring.nkrNumSlots s.kring.ring

/-- A state with the rings in order, from which the recording of packets starts. -/
structure RxStart (nm : NetmapApi) (s : RxSystem) : Prop where
  wellFormed : RxWellFormed nm s
  delivered_eq : s.delivered =
    contents s.ring.numSlots s.np.naPriv.rxPacket s.ring.cur s.pending
  visible_eq : s.visible = []

def freshRx (n m : Nat) : RxSystem :=
  let shared : NetmapRing :=
    { numSlots := m, head := 0, cur := 0, tail := 0, slot := fun _ => ⟨0, 0, 0, 0⟩ }
  { np :=
      { carrierOk := true
        naPriv :=
          { txRings := shared
            rxRings := shared
            txdBufsBase := 0
            rxdBufsBase := 0
            bufs := fun _ => 0
            stat := setupNetfrontCsb shared
            txIrq := ⟨false, 0⟩
            rxIrq := ⟨false, 0⟩ } }
    kring :=
      { nkrNumSlots := n, nrHwcur := 0, nrHwtail := 0, nkrHwofs := 0, nrKflags := 0,
        nkrSlotFlags := 0, rhead := 0, rcur := 0, rtail := 0,
        ring :=
          { numSlots := n, head := 0, cur := 0, tail := 0,
            slot := fun i => ⟨UInt32.ofNat (i + 1), 0, 0, 0⟩ } }
    mem := fun _ => 0
    delivered := []
    visible := [] }

theorem freshRx_start {n m : Nat} (hn : 0 < n) (hle : n ≤ 65536) (hm : 0 < m) :
    RxStart netmapHeaders (freshRx n m) := by
  have hempty : distance m 0 0 = 0 := distance_self hm
  refine ⟨⟨hm, hm, rfl, ?_, ?_, ?_, ?_⟩, ?_, rfl⟩
  · intro i _ hwithin
    change distance m 0 i < distance m 0 0 at hwithin
    omega
  · exact ⟨hn, hn, hn, Nat.le_refl _⟩
  · exact ⟨hn, Nat.le_refl _⟩
  · have hbuf : ∀ i, i < n →
        netmapHeaders.nmb ((freshRx n m).kring.ring.slot i).bufIdx = (i + 1) * 2048 := by
      intro i hi
      change (UInt32.ofNat (i + 1)).toNat * 2048 = (i + 1) * 2048
      rw [UInt32.toNat_ofNat_of_lt' (by change i + 1 < 4294967296; omega)]
    refine ⟨fun i hi => ?_, fun i j hi hj hne => ?_⟩
    · rw [hbuf i hi]
      change (i + 1) * 2048 ≠ 0
      omega
    · rw [hbuf i hi, hbuf j hj]
      unfold netfrontBufSize
      omega
  · change [] = contents m _ 0 (distance m 0 0)
    rw [hempty]
    rfl

/-- A call returns, and leaves the packets that the user may read as they are. -/
def KeepsGivenOut (nm : NetmapApi) (s : RxSystem) : RxEvent → Prop
  | .rxsync flags =>
      ∃ t, rxStep nm s (.rxsync flags) = some t ∧
        ∀ i, i < s.kring.nkrNumSlots →
          Within s.kring.nkrNumSlots s.kring.nrHwcur s.kring.nrHwtail i →
            (t.kring.ring.slot i).bufIdx = (s.kring.ring.slot i).bufIdx ∧
            (t.kring.ring.slot i).len = (s.kring.ring.slot i).len ∧
            bytes t.mem (nm.nmb (s.kring.ring.slot i).bufIdx) netfrontBufSize =
              bytes s.mem (nm.nmb (s.kring.ring.slot i).bufIdx) netfrontBufSize
  | _ => True

section Deliver

variable {ni : NetmapInfo} {packet : List UInt8}

theorem deliverPacket_rxPacket_self (hlen : packet.length ≤ netfrontBufSize) :
    (deliverPacket ni packet).rxPacket ni.rxRings.tail = packet := by
  have hsmall : (UInt16.ofNat packet.length).toNat = packet.length := by
    have hbound : packet.length < 65536 := Nat.lt_of_le_of_lt hlen (by decide)
    simpa using hbound
  unfold NetmapInfo.rxPacket
  change bytes (memcpy _ _ _ _ _) _
    ((ni.rxRings.setSlot ni.rxRings.tail _).slot ni.rxRings.tail).len.toNat = packet
  rw [NetmapRing.setSlot_slot_self]
  change bytes _ _ (UInt16.ofNat packet.length).toNat = packet
  rw [hsmall]
  exact (bytes_memcpy _ _ _ _ _).trans (bytes_ofList packet 0)

theorem deliverPacket_rxPacket_of_ne (hlen : packet.length ≤ netfrontBufSize) {i : Nat}
    (hne : i ≠ ni.rxRings.tail)
    (hshort : (ni.rxRings.slot i).len.toNat ≤ netfrontBufSize) :
    (deliverPacket ni packet).rxPacket i = ni.rxPacket i := by
  have hdisjoint := netfrontBuf_disjoint (t := ni.rxdBufsBase) hne
  unfold NetmapInfo.rxPacket
  change bytes (memcpy _ _ _ _ _) (netfrontBuf ni.rxdBufsBase i)
    ((ni.rxRings.setSlot _ _).slot i).len.toNat = _
  rw [NetmapRing.setSlot_slot_of_ne _ _ _ hne]
  exact bytes_memcpy_disjoint _ _ _ (by omega)

theorem deliverPacket_slot_len (hlen : packet.length ≤ netfrontBufSize) {i : Nat}
    (hshort : i ≠ ni.rxRings.tail → (ni.rxRings.slot i).len.toNat ≤ netfrontBufSize) :
    ((deliverPacket ni packet).rxRings.slot i).len.toNat ≤ netfrontBufSize := by
  change ((ni.rxRings.setSlot _ _).slot i).len.toNat ≤ _
  by_cases hsame : i = ni.rxRings.tail
  · rw [hsame, NetmapRing.setSlot_slot_self]
    change (UInt16.ofNat packet.length).toNat ≤ _
    exact Nat.le_trans (by simpa using Nat.mod_le packet.length 65536) hlen
  · rw [NetmapRing.setSlot_slot_of_ne _ _ _ hsame]
    exact hshort hsame

end Deliver

theorem advance_ne_tail {ni : NetmapInfo} (hcur : ni.rxRings.cur < ni.rxRings.numSlots)
    {t : Nat} (ht : t < distance ni.rxRings.numSlots ni.rxRings.cur ni.rxRings.tail) :
    advance ni.rxRings.numSlots ni.rxRings.cur t ≠ ni.rxRings.tail := by
  intro heq
  have hbound := Nat.lt_trans ht (distance_lt (Nat.zero_lt_of_lt hcur) _ _)
  rw [← heq, distance_advance hcur hbound] at ht
  exact Nat.lt_irrefl t ht

theorem ShortPending.at_advance {ni : NetmapInfo} (hshort : ShortPending ni)
    (hcur : ni.rxRings.cur < ni.rxRings.numSlots) {t : Nat}
    (ht : t < distance ni.rxRings.numSlots ni.rxRings.cur ni.rxRings.tail) :
    (ni.rxRings.slot (advance ni.rxRings.numSlots ni.rxRings.cur t)).len.toNat ≤
      netfrontBufSize := by
  have hm := Nat.zero_lt_of_lt hcur
  exact hshort _ (advance_lt hm _ _) ((within_advance_iff hcur
    (Nat.lt_trans ht (distance_lt hm _ _))).mpr ht)

structure RxLossless (nm : NetmapApi) (s : RxSystem) : Prop where
  wellFormed : RxWellFormed nm s
  fifo : RxFifo s

theorem RxStart.lossless {nm : NetmapApi} {s : RxSystem} (hstart : RxStart nm s) :
    RxLossless nm s := by
  refine ⟨hstart.wellFormed, ?_⟩
  unfold RxFifo
  rw [hstart.visible_eq, hstart.delivered_eq]
  rfl

theorem RxLossless.deliver {nm : NetmapApi} {s t : RxSystem} {packet : List UInt8}
    (hs : RxLossless nm s) (hstep : rxStep nm s (.deliver packet) = some t) :
    RxLossless nm t := by
  simp only [rxStep, Option.ite_none_right_eq_some, Option.some.injEq] at hstep
  obtain ⟨⟨hlen, hroom⟩, rfl⟩ := hstep
  obtain ⟨⟨hcur, htail, hhead, hshort, hvalid, hvalidCur, hown⟩, hfifo⟩ := hs
  unfold RxFifo RxSystem.pending at hfifo
  simp only [RxSystem.ring] at hcur htail hhead hroom hfifo
  have hm := Nat.zero_lt_of_lt hcur
  rw [netmapRingNext_eq_advance htail, hhead] at hroom
  have hspace := distance_succ_lt_of_advance_ne hcur htail hroom
  have hnext : (deliverPacket s.np.naPriv packet).rxRings.tail =
      advance s.np.naPriv.rxRings.numSlots s.np.naPriv.rxRings.tail 1 :=
    netmapRingNext_eq_advance htail
  have hgrow := distance_advance_right hcur htail hspace
  refine ⟨⟨hcur, ?_, hhead, ?_, hvalid, hvalidCur, hown⟩, ?_⟩
  · change (deliverPacket s.np.naPriv packet).rxRings.tail < s.np.naPriv.rxRings.numSlots
    rw [hnext]
    exact advance_lt hm _ _
  · intro i hi hwithin
    refine deliverPacket_slot_len hlen fun hne => ?_
    refine hshort i hi (Nat.lt_of_le_of_ne ?_ fun heq => hne ?_)
    · rw [hnext] at hwithin
      change distance s.np.naPriv.rxRings.numSlots s.np.naPriv.rxRings.cur i <
        distance s.np.naPriv.rxRings.numSlots s.np.naPriv.rxRings.cur _ at hwithin
      rw [hgrow] at hwithin
      exact Nat.le_of_lt_succ hwithin
    · rw [← advance_distance hcur hi, heq, advance_distance hcur htail]
  · change s.visible ++ contents s.np.naPriv.rxRings.numSlots
      (deliverPacket s.np.naPriv packet).rxPacket s.np.naPriv.rxRings.cur
      (distance s.np.naPriv.rxRings.numSlots s.np.naPriv.rxRings.cur
        (deliverPacket s.np.naPriv packet).rxRings.tail) = s.delivered ++ [packet]
    rw [hnext, hgrow, contents_push s.np.naPriv.rxPacket,
      advance_distance hcur htail, deliverPacket_rxPacket_self hlen, ← hfifo,
      List.append_assoc]
    intro k hk
    exact deliverPacket_rxPacket_of_ne hlen (advance_ne_tail hcur hk)
      (hshort.at_advance hcur hk)

/-- The shared ring after a call: `k` packets further, and otherwise as before. -/
structure SharedAdvanced (ni ni' : NetmapInfo) (k : Nat) : Prop where
  numSlots : ni'.rxRings.numSlots = ni.rxRings.numSlots
  tail : ni'.rxRings.tail = ni.rxRings.tail
  cur : ni'.rxRings.cur = advance ni.rxRings.numSlots ni.rxRings.cur k
  head : ni.rxRings.head = ni.rxRings.cur → ni'.rxRings.head = ni'.rxRings.cur
  slot : ni'.rxRings.slot = ni.rxRings.slot
  packet : ni'.rxPacket = ni.rxPacket

theorem SharedAdvanced.refl {ni : NetmapInfo} (hcur : ni.rxRings.cur < ni.rxRings.numSlots) :
    SharedAdvanced ni ni 0 :=
  ⟨rfl, rfl, (advance_zero hcur).symm, id, rfl, rfl⟩

theorem publishRx_advanced {ni : NetmapInfo} (hcur : ni.rxRings.cur < ni.rxRings.numSlots)
    (hkick : ni.stat.hostNeedRxkick = true) (k : Nat) :
    SharedAdvanced ni (publishRx ni (2 * k) (advance ni.rxRings.numSlots ni.rxRings.cur k))
      k := by
  unfold publishRx
  rw [if_pos hkick]
  by_cases hnone : k = 0
  · subst hnone
    exact ⟨rfl, rfl, (advance_zero hcur).symm, id, rfl, rfl⟩
  · have hsome : 2 * k ≠ 0 := by omega
    rw [if_pos hsome]
    exact ⟨rfl, rfl, rfl, fun _ => rfl, rfl, rfl⟩

theorem RxOutcome.shared {nm : NetmapApi} {np : NetfrontInfo} {mem : Nat → UInt8}
    {kring : NetmapKring} {flags : UInt32} {call : RxCall}
    (hcur : np.naPriv.rxRings.cur < np.naPriv.rxRings.numSlots)
    (houtcome : RxOutcome nm np mem kring flags (rxImported nm np.naPriv kring flags)
      call) :
    SharedAdvanced np.naPriv call.np.naPriv (rxImported nm np.naPriv kring flags) := by
  rw [houtcome.np_eq]
  unfold rxImported
  cases henabled : importEnabled nm kring flags with
  | false => simpa using SharedAdvanced.refl hcur
  | true =>
      cases hkick : np.naPriv.stat.hostNeedRxkick with
      | false => simpa [publishRx, hkick] using SharedAdvanced.refl hcur
      | true => simpa using publishRx_advanced hcur hkick _

theorem rxImported_le_pending (nm : NetmapApi) (ni : NetmapInfo) (kring : NetmapKring)
    (flags : UInt32) : rxImported nm ni kring flags ≤
      distance ni.rxRings.numSlots ni.rxRings.cur ni.rxRings.tail := by
  unfold rxImported
  split
  · exact Nat.min_le_left _ _
  · exact Nat.zero_le _

theorem rxImported_add_lt (nm : NetmapApi) (ni : NetmapInfo) {kring : NetmapKring}
    (flags : UInt32) (hhwcur : kring.nrHwcur < kring.nkrNumSlots)
    (hhwtail : kring.nrHwtail < kring.nkrNumSlots) :
    distance kring.nkrNumSlots kring.nrHwcur kring.nrHwtail + rxImported nm ni kring flags <
      kring.nkrNumSlots := by
  have hroom := nm.distance_add_room hhwcur hhwtail
  have hle : rxImported nm ni kring flags ≤ distance kring.nkrNumSlots kring.nrHwtail
      (nm.nmPrev kring.nrHwcur (kring.nkrNumSlots - 1)) := by
    unfold rxImported
    split
    · exact Nat.min_le_right _ _
    · exact Nat.zero_le _
  omega

theorem RxOutcome.valid {nm : NetmapApi} {np : NetfrontInfo} {mem : Nat → UInt8}
    {kring : NetmapKring} {flags : UInt32} {call : RxCall} (hvalid : RxHeadValid kring)
    (hvalidCur : RxCurValid kring)
    (houtcome : RxOutcome nm np mem kring flags (rxImported nm np.naPriv kring flags)
      call) : RxHeadValid call.kring ∧ RxCurValid call.kring := by
  obtain ⟨hhwcur, hhwtail, hhead, hheadLe⟩ := hvalid
  obtain ⟨hcur, hcurLe⟩ := hvalidCur
  have hn := Nat.zero_lt_of_lt hhwcur
  have hroom := rxImported_add_lt nm np.naPriv flags hhwcur hhwtail
  have hsplit := distance_add_distance hhwcur hhead hhwtail hheadLe
  have hgrow := distance_advance_right (k := rxImported nm np.naPriv kring flags) hhead
    hhwtail (by omega)
  unfold RxHeadValid RxCurValid
  rw [houtcome.nkrNumSlots, houtcome.nrHwcur, houtcome.nrHwtail, houtcome.head,
    houtcome.cur, distance_self hhead]
  refine ⟨⟨hhead, advance_lt hn _ _, hhead, Nat.zero_le _⟩, hcur, ?_⟩
  omega

theorem RxLossless.rxsync {nm : NetmapApi} {s : RxSystem} (flags : UInt32)
    (hs : RxLossless nm s) :
    ∃ t, rxStep nm s (.rxsync flags) = some t ∧ RxLossless nm t ∧
      ∀ i, i < s.kring.nkrNumSlots →
        Within s.kring.nkrNumSlots s.kring.nrHwcur s.kring.nrHwtail i →
          (t.kring.ring.slot i).bufIdx = (s.kring.ring.slot i).bufIdx ∧
          (t.kring.ring.slot i).len = (s.kring.ring.slot i).len ∧
          bytes t.mem (nm.nmb (s.kring.ring.slot i).bufIdx) netfrontBufSize =
            bytes s.mem (nm.nmb (s.kring.ring.slot i).bufIdx) netfrontBufSize := by
  obtain ⟨⟨hcur, htail, hhead, hshort, hvalid, hvalidCur, hown⟩, hfifo⟩ := hs
  obtain ⟨call, hcall, houtcome⟩ :=
    rxsync_spec nm s.np s.mem flags hvalid hvalidCur hcur htail hown hshort
  have hshared := RxOutcome.shared hcur houtcome
  have hvalid' := RxOutcome.valid hvalid hvalidCur houtcome
  have hle := rxImported_le_pending nm s.np.naPriv s.kring flags
  have hroom := rxImported_add_lt nm s.np.naPriv flags hvalid.1 hvalid.2.1
  generalize hk : rxImported nm s.np.naPriv s.kring flags = k at *
  have hleft := distance_advance_left hcur htail hle
  simp only [RxSystem.ring] at hcur htail hhead hleft
  have hm := Nat.zero_lt_of_lt hcur
  refine ⟨_, by simp only [rxStep, hcall]; rfl, ⟨⟨?_, ?_, ?_, ?_, ?_, ?_, ?_⟩, ?_⟩, ?_⟩
  · change call.np.naPriv.rxRings.cur < call.np.naPriv.rxRings.numSlots
    rw [hshared.cur, hshared.numSlots]
    exact advance_lt hm _ _
  · change call.np.naPriv.rxRings.tail < call.np.naPriv.rxRings.numSlots
    rw [hshared.tail, hshared.numSlots]
    exact htail
  · exact hshared.head hhead
  · intro i hi hwithin
    rw [hshared.numSlots] at hi
    unfold Within at hwithin
    rw [hshared.numSlots, hshared.cur, hshared.tail] at hwithin
    obtain ⟨t, ht, rfl⟩ := Within.exists_advance (advance_lt hm _ _) hi hwithin
    rw [hleft] at ht
    rw [hshared.slot, advance_advance]
    exact hshort.at_advance hcur (by omega)
  · exact hvalid'.1
  · exact hvalid'.2
  · change OwnBuffers nm call.kring.nkrNumSlots call.kring.ring
    rw [houtcome.nkrNumSlots]
    exact hown.congr houtcome.bufIdx
  · unfold RxFifo RxSystem.pending at hfifo ⊢
    change s.visible ++ contents s.kring.nkrNumSlots (userPacket nm call.kring.ring call.mem)
        s.kring.nrHwtail (distance s.kring.nkrNumSlots s.kring.nrHwtail call.kring.nrHwtail) ++
      contents call.np.naPriv.rxRings.numSlots call.np.naPriv.rxPacket
        call.np.naPriv.rxRings.cur (distance call.np.naPriv.rxRings.numSlots
          call.np.naPriv.rxRings.cur call.np.naPriv.rxRings.tail) = s.delivered
    rw [houtcome.nrHwtail, distance_advance hvalid.2.1 (by omega), houtcome.packets,
      hshared.numSlots, hshared.packet, hshared.cur, hshared.tail, hleft, List.append_assoc,
      ← contents_add, Nat.add_sub_cancel' hle]
    exact hfifo
  · intro i hi hwithin
    have hfar := hwithin.sub_le_distance hvalid.1 hvalid.2.1 hi
    obtain ⟨hlen, hbytes⟩ := houtcome.frame i hi (by omega)
    exact ⟨houtcome.bufIdx i, hlen, hbytes⟩

theorem rxLossless_step (nm : NetmapApi) (s : RxSystem) (e : RxEvent) (t : RxSystem)
    (hs : RxLossless nm s) (hstep : rxStep nm s e = some t) : RxLossless nm t := by
  cases e with
  | deliver packet => exact hs.deliver hstep
  | rxInterrupt =>
      rw [← Option.some.inj hstep]
      obtain ⟨⟨hcur, htail, hhead, hshort, hvalid, hvalidCur, hown⟩, hfifo⟩ := hs
      unfold netfrontRxInterrupt
      split
      · exact ⟨⟨hcur, htail, hhead, hshort, hvalid, hvalidCur, hown⟩, hfifo⟩
      · exact ⟨⟨hcur, htail, hhead, hshort, hvalid, hvalidCur, hown⟩, hfifo⟩
  | release head cur =>
      simp only [rxStep, Option.ite_none_right_eq_some, Option.some.injEq] at hstep
      obtain ⟨⟨hvalid, hvalidCur⟩, rfl⟩ := hstep
      obtain ⟨⟨hcur, htail, hhead, hshort, _, _, hown⟩, hfifo⟩ := hs
      exact ⟨⟨hcur, htail, hhead, hshort, hvalid, hvalidCur, hown.congr fun _ => rfl⟩, hfifo⟩
  | rxsync flags =>
      obtain ⟨t', ht', hlossless, _⟩ := hs.rxsync flags
      rw [hstep] at ht'
      exact Option.some.inj ht' ▸ hlossless

/-- The guest receives what the host delivers, in order and once, and no call changes a
packet that the user may be reading. -/
theorem rx_lossless_fifo (nm : NetmapApi) {s : RxSystem} (hstart : RxStart nm s)
    (es : List RxEvent) :
    Along (rxStep nm) (KeepsGivenOut nm) s es ∧
      ∀ t, run (rxStep nm) s es = some t → RxFifo t := by
  constructor
  · refine Along.mono (G := fun _ _ => True) (I := RxLossless nm)
      (fun t e u ht _ hstep => rxLossless_step nm t e u ht hstep) ?_ hstart.lossless
      (along_true _ s es)
    intro t e ht _
    cases e with
    | rxsync flags =>
        obtain ⟨u, hu, _, hkept⟩ := ht.rxsync flags
        exact ⟨u, hu, hkept⟩
    | _ => trivial
  · intro t hrun
    exact (invariant_of_run (rxLossless_step nm) hstart.lossless hrun).fifo

theorem rx_lossless_fifo_three_packets :
    ∃ t, run (rxStep netmapHeaders) (freshRx 2 4)
      [.deliver [1, 2], .deliver [3], .rxInterrupt, .rxsync 0, .deliver [4, 5, 6],
        .release 1 1, .rxInterrupt, .rxsync 0, .rxInterrupt, .rxsync 0] = some t ∧
      RxFifo t := by
  obtain ⟨t, hrun⟩ := Option.isSome_iff_exists.mp
    (show (run (rxStep netmapHeaders) (freshRx 2 4)
      [.deliver [1, 2], .deliver [3], .rxInterrupt, .rxsync 0, .deliver [4, 5, 6],
        .release 1 1, .rxInterrupt, .rxsync 0, .rxInterrupt, .rxsync 0]).isSome = true by
      decide)
  exact ⟨t, hrun, (rx_lossless_fifo netmapHeaders
    (freshRx_start (by decide) (by decide) (by decide)) _).2 t hrun⟩

end XenNet.ReceiveSystem
