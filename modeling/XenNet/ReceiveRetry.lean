import XenNet.ReceiveSync

namespace XenNet.ReceiveRetry

open XenNet.ByteMemory
open XenNet.CopySequence
open XenNet.CyclicIndex
open XenNet.RingSegment
open XenNet.NetmapKernel
open XenNet.NetfrontModel
open XenNet.NetfrontReceive
open XenNet.ReceiveLoop
open XenNet.ReceiveImport
open XenNet.ReceiveSync

/-- `netmap_ring_reinit` gives no new buffer to a slot whose buffer is good, also where the
length in the slot is not. -/
def ReinitKeepsBuffers (nm : NetmapApi) : Prop :=
  ∀ kring i, nm.nmb (kring.ring.slot i).bufIdx ≠ nm.netmapBufferBase →
    ((nm.netmapRingReinit kring).1.ring.slot i).bufIdx = (kring.ring.slot i).bufIdx

/-- The first bad buffer among the slots to fill is that of position `t`, and the shared ring
has the packets before it. -/
structure BadPosition (nm : NetmapApi) (np : NetfrontInfo) (kring : NetmapKring) (t : Nat) :
    Prop where
  room : t < distance kring.nkrNumSlots kring.nrHwtail
    (nm.nmPrev kring.nrHwcur (kring.nkrNumSlots - 1))
  bad : nm.nmb (kring.ring.slot (advance kring.nkrNumSlots kring.nrHwtail t)).bufIdx =
    nm.netmapBufferBase
  before : ∀ s, s < t →
    nm.nmb (kring.ring.slot (advance kring.nkrNumSlots kring.nrHwtail s)).bufIdx ≠
      nm.netmapBufferBase
  pending : t ≤ if np.naPriv.stat.hostNeedRxkick then nmRingSpace np.naPriv.rxRings else 0

/-- The call gave up after `t` packets. -/
structure RxGaveUp (nm : NetmapApi) (np : NetfrontInfo) (mem : Nat → UInt8)
    (kring : NetmapKring) (t : Nat) (call : RxCall) : Prop where
  reinit : ∃ k, call.kring = (nm.netmapRingReinit k).1 ∧ call.ret = (nm.netmapRingReinit k).2
  np_eq : call.np = np
  nkrNumSlots : call.kring.nkrNumSlots = kring.nkrNumSlots
  nrHwcur : call.kring.nrHwcur = kring.nrHwcur
  nrHwtail : call.kring.nrHwtail = kring.nrHwtail
  nrKflags : call.kring.nrKflags = kring.nrKflags
  slot : ∀ i, i < kring.nkrNumSlots →
    Within kring.nkrNumSlots kring.nrHwcur kring.nrHwtail i →
      nm.nmb (kring.ring.slot i).bufIdx ≠ nm.netmapBufferBase →
        (kring.ring.slot i).len.toNat ≤ nm.netmapBufSize →
          call.kring.ring.slot i = kring.ring.slot i
  memory : ∀ a, (∀ s, s < t → ¬(importCopy nm np.naPriv kring.nkrNumSlots
    (rxImportStart np.naPriv mem kring) s).Covers a) → call.mem a = mem a

/-- What the user does before its next call: it sets the indices of its ring and gives new
buffers to some slots. -/
structure UserRepair where
  head : Nat
  cur : Nat
  bufIdx : Nat → Option UInt32

def UserRepair.apply (repair : UserRepair) (kring : NetmapKring) : NetmapKring :=
  { kring with
    ring :=
      { kring.ring with
        head := repair.head
        cur := repair.cur
        slot := fun i =>
          { kring.ring.slot i with
            bufIdx := (repair.bufIdx i).getD (kring.ring.slot i).bufIdx } } }

/-- The call does not end in `netmap_ring_reinit`. -/
def RxSucceeds (nm : NetmapApi) (np : NetfrontInfo) (mem : Nat → UInt8) (kring : NetmapKring)
    (flags : UInt32) : Prop :=
  let after := (nm.nmRxsyncPrologue kring).1
  (nm.nmRxsyncPrologue kring).2 < kring.nkrNumSlots ∧
    (importEnabled nm after flags = true → ∃ st,
      importLoop nm np.naPriv after.nkrSlotFlags
        (nm.nmPrev after.nrHwcur (after.nkrNumSlots - 1)) (after.nkrNumSlots - 1)
        after.nkrNumSlots (rxImportStart np.naPriv mem after) = some (false, st))

/-- The packets that a call shows to the user, from `nr_hwtail` on. -/
def madeVisible (nm : NetmapApi) (kring : NetmapKring) (call : RxCall) : List (List UInt8) :=
  contents kring.nkrNumSlots (userPacket nm call.kring.ring call.mem) kring.nrHwtail
    (distance kring.nkrNumSlots kring.nrHwtail call.kring.nrHwtail)

section GiveUp

variable (nm : NetmapApi) (np : NetfrontInfo) (mem : Nat → UInt8) {kring : NetmapKring}

theorem BadPosition.rxStopsAt {t : Nat} (hposition : BadPosition nm np kring t) :
    RxStopsAt nm np mem kring t ∧ RxBadAt nm np mem kring t := by
  obtain ⟨hroom, hbad, hbefore, hpending⟩ := hposition
  refine ⟨⟨fun s hs => ?_, fun hgoes => hgoes.2.1 hbad⟩, hroom, hbad⟩
  cases hkick : np.naPriv.stat.hostNeedRxkick with
  | true =>
      rw [hkick, if_pos rfl] at hpending
      exact ⟨Nat.lt_trans hs hroom, hbefore s hs, hkick, Nat.lt_of_lt_of_le hs hpending⟩
  | false =>
      rw [hkick, if_neg (by decide)] at hpending
      omega

theorem BadPosition.of_keeps {kring' : NetmapKring} {t : Nat}
    (hkeeps : KeepsDriverState kring kring') (hposition : BadPosition nm np kring t) :
    BadPosition nm np kring' t := by
  obtain ⟨hroom, hbad, hbefore, hpending⟩ := hposition
  rw [← hkeeps.nkrNumSlots, ← hkeeps.nrHwtail] at hroom hbad hbefore
  rw [← hkeeps.nrHwcur] at hroom
  rw [← hkeeps.slot] at hbad hbefore
  exact ⟨hroom, hbad, hbefore, hpending⟩

theorem rxsync_of_bad (flags : UInt32)
    (haccept : (nm.nmRxsyncPrologue kring).2 < kring.nkrNumSlots)
    (henabled : importEnabled nm kring flags = true) {t : Nat}
    (hposition : BadPosition nm np kring t) :
    ∃ after, KeepsDriverState kring after ∧
      netfrontNetmapRxsync nm np mem kring flags =
        some ⟨np, (nm.netmapRingReinit { after with ring := rxImportedRing np mem after t }).1,
          rxCopies nm np mem after t,
          (nm.netmapRingReinit { after with ring := rxImportedRing np mem after t }).2⟩ := by
  have hkeeps := nm.nmRxsyncPrologue_keeps kring
  obtain ⟨heq, hhwcur, hhwtail, hhead, _⟩ := nm.nmRxsyncPrologue_sound kring haccept
  generalize hafter : (nm.nmRxsyncPrologue kring).1 = after at hkeeps
  obtain ⟨hstops, hbad⟩ := (hposition.of_keeps nm np hkeeps).rxStopsAt nm np mem
  rw [← hkeeps.nrHwcur, ← hkeeps.nkrNumSlots] at hhwcur
  rw [← hkeeps.nrHwtail, ← hkeeps.nkrNumSlots] at hhwtail
  rw [← hkeeps.nkrNumSlots] at hhead
  rw [← importEnabled_of_keeps nm flags hkeeps] at henabled
  refine ⟨after, hkeeps, ?_⟩
  rw [rxsync_of_accept nm np mem flags haccept, hafter, if_pos henabled]
  exact importReceived_of_bad nm np mem hhwcur hhwtail hstops hbad

theorem rxGaveUp_of_bad (flags : UInt32)
    (haccept : (nm.nmRxsyncPrologue kring).2 < kring.nkrNumSlots)
    (henabled : importEnabled nm kring flags = true) {t : Nat}
    (hposition : BadPosition nm np kring t) :
    ∃ call, netfrontNetmapRxsync nm np mem kring flags = some call ∧
      RxGaveUp nm np mem kring t call := by
  obtain ⟨after, hkeeps, hcall⟩ := rxsync_of_bad nm np mem flags haccept henabled hposition
  obtain ⟨_, hhwcur, hhwtail, _⟩ := nm.nmRxsyncPrologue_sound kring haccept
  refine ⟨_, hcall, ⟨_, rfl, rfl⟩, rfl, ?_, ?_, ?_, ?_, ?_, ?_⟩
  · exact (nm.netmapRingReinit_nkrNumSlots _).trans hkeeps.nkrNumSlots
  · exact (nm.netmapRingReinit_nrHwcur _).trans hkeeps.nrHwcur
  · exact (nm.netmapRingReinit_nrHwtail _).trans hkeeps.nrHwtail
  · exact (nm.netmapRingReinit_nrKflags _).trans hkeeps.nrKflags
  · intro i hi hwithin hbuf hlen
    have hfar := far_of_given_out nm hhwcur hhwtail hi (Nat.le_of_lt hposition.room) hwithin
    have hslot : (rxImportedRing np mem after t).slot i = kring.ring.slot i := by
      rw [importedRing_slot_of_le]
      · change after.ring.slot i = _
        rw [hkeeps.slot]
      · change t ≤ distance _ after.nrHwtail i
        rw [hkeeps.nkrNumSlots, hkeeps.nrHwtail]
        exact hfar
    rw [← hslot] at hbuf hlen ⊢
    exact nm.netmapRingReinit_slot _ i hbuf hlen
  · intro a houtside
    refine copies_outside _ _ ?_
    rw [importCopy_of_keeps nm np mem hkeeps]
    exact houtside

end GiveUp

section Retry

variable (nm : NetmapApi)

/-- The rings as the next call finds them: `kring` after the call that gave up, `kring'`
without it. -/
structure RetryOf (kring kring' : NetmapKring) : Prop where
  nkrNumSlots : kring.nkrNumSlots = kring'.nkrNumSlots
  nrHwcur : kring.nrHwcur = kring'.nrHwcur
  nrHwtail : kring.nrHwtail = kring'.nrHwtail
  nrKflags : kring.nrKflags = kring'.nrKflags
  head : kring.ring.head = kring'.ring.head
  cur : kring.ring.cur = kring'.ring.cur
  bufIdx : ∀ i, nm.nmb (kring'.ring.slot i).bufIdx ≠ nm.netmapBufferBase →
    (kring.ring.slot i).bufIdx = (kring'.ring.slot i).bufIdx

variable {nm}

theorem RetryOf.of_keeps {kring kring' after after' : NetmapKring}
    (hretry : RetryOf nm kring kring') (hkeeps : KeepsDriverState kring after)
    (hkeeps' : KeepsDriverState kring' after') : RetryOf nm after after' := by
  obtain ⟨hslots, hhwcur, hhwtail, hkflags, hhead, hcur, hbuf⟩ := hretry
  rw [← hkeeps.nkrNumSlots, ← hkeeps'.nkrNumSlots] at hslots
  rw [← hkeeps.nrHwcur, ← hkeeps'.nrHwcur] at hhwcur
  rw [← hkeeps.nrHwtail, ← hkeeps'.nrHwtail] at hhwtail
  rw [← hkeeps.nrKflags, ← hkeeps'.nrKflags] at hkflags
  rw [← hkeeps.head, ← hkeeps'.head] at hhead
  rw [← hkeeps.cur, ← hkeeps'.cur] at hcur
  rw [← hkeeps.slot, ← hkeeps'.slot] at hbuf
  exact ⟨hslots, hhwcur, hhwtail, hkflags, hhead, hcur, hbuf⟩

theorem RetryOf.goesOn_iff {kring kring' : NetmapKring} (hretry : RetryOf nm kring kring')
    (np : NetfrontInfo) (mem mem' : Nat → UInt8) {s : Nat}
    (hgood : ¬RxBadAt nm np mem' kring' s) :
    GoesOn nm np.naPriv kring.nkrNumSlots (nm.nmPrev kring.nrHwcur (kring.nkrNumSlots - 1))
        (rxImportStart np.naPriv mem kring) s ↔
      GoesOn nm np.naPriv kring'.nkrNumSlots
        (nm.nmPrev kring'.nrHwcur (kring'.nkrNumSlots - 1))
        (rxImportStart np.naPriv mem' kring') s := by
  simp only [BadAt, GoesOn, rxImportStart] at hgood ⊢
  rw [hretry.nkrNumSlots, hretry.nrHwcur, hretry.nrHwtail]
  constructor
  · rintro ⟨hroom, _, hkick, hpending⟩
    exact ⟨hroom, fun hbad => hgood ⟨hroom, hbad⟩, hkick, hpending⟩
  · rintro ⟨hroom, hbuf, hkick, hpending⟩
    exact ⟨hroom, hretry.bufIdx _ hbuf ▸ hbuf, hkick, hpending⟩

theorem RetryOf.rxStopsAt {kring kring' : NetmapKring} (hretry : RetryOf nm kring kring')
    (np : NetfrontInfo) (mem mem' : Nat → UInt8) {p : Nat}
    (hstops : RxStopsAt nm np mem' kring' p) (hgood : ¬RxBadAt nm np mem' kring' p) :
    RxStopsAt nm np mem kring p ∧ ¬RxBadAt nm np mem kring p := by
  have hpassed : ∀ s, s < p → ¬RxBadAt nm np mem' kring' s :=
    fun s hs hbad => (hstops.passed s hs).2.1 hbad.2
  refine ⟨⟨fun s hs => ?_, fun hgoes => ?_⟩, ?_⟩
  · exact (hretry.goesOn_iff np mem mem' (hpassed s hs)).mpr (hstops.passed s hs)
  · exact hstops.stopped ((hretry.goesOn_iff np mem mem' hgood).mp hgoes)
  · rintro ⟨hroom, hbad⟩
    simp only [rxImportStart] at hroom hbad
    rw [hretry.nkrNumSlots, hretry.nrHwcur, hretry.nrHwtail] at hroom
    rw [hretry.nkrNumSlots, hretry.nrHwtail] at hbad
    have hbuf : nm.nmb (kring'.ring.slot (advance kring'.nkrNumSlots kring'.nrHwtail p)).bufIdx ≠
        nm.netmapBufferBase := fun hbad' => hgood ⟨hroom, hbad'⟩
    exact hbuf (hretry.bufIdx _ hbuf ▸ hbad)

theorem retryOf_apply (hreinit : ReinitKeepsBuffers nm) {np : NetfrontInfo}
    {mem : Nat → UInt8} {kring : NetmapKring} {flags : UInt32}
    (haccept : (nm.nmRxsyncPrologue kring).2 < kring.nkrNumSlots)
    (henabled : importEnabled nm kring flags = true) {t : Nat}
    (hposition : BadPosition nm np kring t) {call : RxCall}
    (hcall : netfrontNetmapRxsync nm np mem kring flags = some call) (repair : UserRepair) :
    RetryOf nm (repair.apply call.kring) (repair.apply kring) := by
  obtain ⟨after, hkeeps, hcall'⟩ := rxsync_of_bad nm np mem flags haccept henabled hposition
  obtain ⟨_, hcall'', hgaveUp⟩ := rxGaveUp_of_bad nm np mem flags haccept henabled hposition
  obtain rfl := Option.some.inj (hcall''.symm.trans hcall)
  obtain rfl := Option.some.inj (hcall'.symm.trans hcall)
  refine ⟨hgaveUp.nkrNumSlots, hgaveUp.nrHwcur, hgaveUp.nrHwtail, hgaveUp.nrKflags, rfl, rfl,
    fun i hbuf => ?_⟩
  simp only [UserRepair.apply] at hbuf ⊢
  cases hnew : repair.bufIdx i with
  | some b => rfl
  | none =>
      rw [hnew, Option.getD_none] at hbuf
      have hslot : ((rxImportedRing np mem after t).slot i).bufIdx =
          (kring.ring.slot i).bufIdx := by
        rw [importedRing_bufIdx]
        change (after.ring.slot i).bufIdx = _
        rw [hkeeps.slot]
      rw [← hslot] at hbuf ⊢
      exact hreinit { after with ring := rxImportedRing np mem after t } i hbuf

theorem madeVisible_rxKring {kring after : NetmapKring} (hkeeps : KeepsDriverState kring after)
    (np : NetfrontInfo) (mem : Nat → UInt8) (head : Nat)
    (hhwtail : kring.nrHwtail < kring.nkrNumSlots) {p : Nat} (hp : p < kring.nkrNumSlots)
    {call : RxCall} (hkring : call.kring = nm.nmRxsyncFinalize (rxKring nm np mem after head p))
    (hmem : call.mem = rxCopies nm np mem after p) :
    madeVisible nm kring call = (List.range p).map fun t =>
      bytes (rxCopies nm np mem after p)
        (importCopy nm np.naPriv after.nkrNumSlots (rxImportStart np.naPriv mem after) t).dst
        (importCopy nm np.naPriv after.nkrNumSlots (rxImportStart np.naPriv mem after) t).len := by
  have hfinal := nm.nmRxsyncFinalize_keeps (rxKring nm np mem after head p)
  have hhwtail' : call.kring.nrHwtail = advance kring.nkrNumSlots kring.nrHwtail p := by
    rw [hkring, hfinal.nrHwtail, ← hkeeps.nkrNumSlots, ← hkeeps.nrHwtail]
    rfl
  rw [madeVisible, hhwtail', distance_advance hhwtail hp, contents, span, List.map_map]
  apply List.map_congr_left
  intro t ht
  rw [Function.comp_apply, hkring, hmem, ← hkeeps.nkrNumSlots, ← hkeeps.nrHwtail]
  rw [← hkeeps.nkrNumSlots] at hp hhwtail
  rw [← hkeeps.nrHwtail] at hhwtail
  exact userPacket_filled nm np mem hhwtail head (List.mem_range.mp ht) (Nat.le_of_lt hp) _

theorem RetryOf.importCopy_eq {kring kring' : NetmapKring} (hretry : RetryOf nm kring kring')
    (np : NetfrontInfo) (mem mem' : Nat → UInt8) {p : Nat}
    (hstops : RxStopsAt nm np mem' kring' p) {t : Nat} (ht : t < p) :
    importCopy nm np.naPriv kring.nkrNumSlots (rxImportStart np.naPriv mem kring) t =
      importCopy nm np.naPriv kring'.nkrNumSlots (rxImportStart np.naPriv mem' kring') t := by
  have hgood := (hstops.passed t ht).2.1
  simp only [importCopy, rxImportStart] at hgood ⊢
  rw [hretry.nkrNumSlots, hretry.nrHwtail, hretry.bufIdx _ hgood]

theorem RetryOf.headValid {kring kring' : NetmapKring} (hretry : RetryOf nm kring kring') :
    RxHeadValid kring ↔ RxHeadValid kring' := by
  unfold RxHeadValid
  rw [hretry.nkrNumSlots, hretry.nrHwcur, hretry.nrHwtail, hretry.head]

theorem RetryOf.curValid {kring kring' : NetmapKring} (hretry : RetryOf nm kring kring') :
    RxCurValid kring ↔ RxCurValid kring' := by
  unfold RxCurValid
  rw [hretry.nkrNumSlots, hretry.nrHwtail, hretry.head, hretry.cur]

/-- The calls leave the same indices, shared ring and flags, and show the same packets. -/
structure SameResult (nm : NetmapApi) (kring kring' : NetmapKring) (retry direct : RxCall) :
    Prop where
  np : retry.np = direct.np
  nrHwcur : retry.kring.nrHwcur = direct.kring.nrHwcur
  nrHwtail : retry.kring.nrHwtail = direct.kring.nrHwtail
  visible : madeVisible nm kring retry = madeVisible nm kring' direct

section Both

variable {kring kring' after after' : NetmapKring} (hretry : RetryOf nm kring kring')
  (hkeeps : KeepsDriverState kring after) (hkeeps' : KeepsDriverState kring' after')
  (hvalid : RxHeadValid kring) (hvalid' : RxHeadValid kring') (np : NetfrontInfo)
  (mem mem' : Nat → UInt8)

include hretry hkeeps hkeeps' hvalid hvalid'

theorem RetryOf.skip : ∃ retry direct,
    skipReleased nm np mem after kring.ring.head = some retry ∧
      skipReleased nm np mem' after' kring'.ring.head = some direct ∧
      SameResult nm kring kring' retry direct := by
  have hnone : ∀ {kring after : NetmapKring} {call : RxCall}, KeepsDriverState kring after →
      RxHeadValid kring → call.kring.nrHwtail = after.nrHwtail →
      madeVisible nm kring call = [] := by
    intro kring after call hkeeps hvalid hhwtail
    rw [madeVisible, hhwtail, hkeeps.nrHwtail, distance_self hvalid.2.1, contents_zero]
  obtain ⟨_, hskip, _, hhwcur, hhwtail, _⟩ := skipReleased_spec nm np mem after
    (hkeeps.nkrNumSlots ▸ hvalid.2.2.1) (hkeeps.nrHwcur ▸ hkeeps.nkrNumSlots ▸ hvalid.1)
  obtain ⟨_, hskip', _, hhwcur', hhwtail', _⟩ := skipReleased_spec nm np mem' after'
    (hkeeps'.nkrNumSlots ▸ hvalid'.2.2.1) (hkeeps'.nrHwcur ▸ hkeeps'.nkrNumSlots ▸ hvalid'.1)
  refine ⟨_, _, hskip, hskip', rfl, ?_, ?_, ?_⟩
  · exact hhwcur.trans (hretry.head.trans hhwcur'.symm)
  · exact hhwtail.trans ((hretry.of_keeps hkeeps hkeeps').nrHwtail.trans hhwtail'.symm)
  · rw [hnone hkeeps hvalid hhwtail, hnone hkeeps' hvalid' hhwtail']

theorem RetryOf.imports {p : Nat} (hstops' : RxStopsAt nm np mem' after' p)
    (hgood' : ¬RxBadAt nm np mem' after' p) : ∃ retry direct,
    importReceived nm np mem after kring.ring.head = some retry ∧
      importReceived nm np mem' after' kring'.ring.head = some direct ∧
      SameResult nm kring kring' retry direct := by
  have hafter := hretry.of_keeps hkeeps hkeeps'
  obtain ⟨hstops, hgood⟩ := hafter.rxStopsAt np mem mem' hstops' hgood'
  have ⟨hhwcur, hhwtail, hhead, _⟩ := hvalid
  have ⟨hhwcur', hhwtail', hhead', _⟩ := hvalid'
  have hp : p < kring.nkrNumSlots := by
    have hroom := hstops.le_room
    rw [hkeeps.nkrNumSlots] at hroom
    exact Nat.lt_of_le_of_lt hroom (distance_lt (by omega) _ _)
  have hp' : p < kring'.nkrNumSlots := hretry.nkrNumSlots ▸ hp
  refine ⟨_, _, importReceived_of_good nm np mem (hkeeps.nrHwcur ▸ hkeeps.nkrNumSlots ▸ hhwcur)
    (hkeeps.nrHwtail ▸ hkeeps.nkrNumSlots ▸ hhwtail) (hkeeps.nkrNumSlots ▸ hhead) hstops hgood,
    importReceived_of_good nm np mem' (hkeeps'.nrHwcur ▸ hkeeps'.nkrNumSlots ▸ hhwcur')
    (hkeeps'.nrHwtail ▸ hkeeps'.nkrNumSlots ▸ hhwtail') (hkeeps'.nkrNumSlots ▸ hhead') hstops'
    hgood', rfl, ?_, ?_, ?_⟩
  · rw [(nm.nmRxsyncFinalize_keeps _).nrHwcur, (nm.nmRxsyncFinalize_keeps _).nrHwcur]
    exact hretry.head
  · rw [(nm.nmRxsyncFinalize_keeps _).nrHwtail, (nm.nmRxsyncFinalize_keeps _).nrHwtail]
    simp only [rxKring]
    rw [hafter.nkrNumSlots, hafter.nrHwtail]
  · rw [madeVisible_rxKring hkeeps np mem _ hhwtail hp rfl rfl,
      madeVisible_rxKring hkeeps' np mem' _ hhwtail' hp' rfl rfl]
    apply List.map_congr_left
    intro t ht
    have htp := List.mem_range.mp ht
    rw [hafter.importCopy_eq np mem mem' hstops' htp, rxCopies,
      copies_congr_copy _ _ fun s hs => hafter.importCopy_eq np mem mem' hstops' hs]
    -- every byte of the packet was copied by the call itself
    exact bytes_congr fun o ho => copies_congr _ _ _ htp ⟨Nat.le_add_right _ _, by omega⟩

end Both

/-- A call that succeeds without the failed one succeeds after it as well, and shows the
same packets. -/
theorem RetryOf.retry {kring kring' : NetmapKring} (hretry : RetryOf nm kring kring')
    (np : NetfrontInfo) (mem mem' : Nat → UInt8) (flags : UInt32) (hcurValid : RxCurValid kring')
    (hsucceeds : RxSucceeds nm np mem' kring' flags) :
    RxSucceeds nm np mem kring flags ∧ ∃ retry direct,
      netfrontNetmapRxsync nm np mem kring flags = some retry ∧
        netfrontNetmapRxsync nm np mem' kring' flags = some direct ∧
        SameResult nm kring kring' retry direct := by
  obtain ⟨haccept', hloop'⟩ := hsucceeds
  obtain ⟨_, hvalid'⟩ := nm.nmRxsyncPrologue_sound kring' haccept'
  have hvalid := hretry.headValid.mpr hvalid'
  have haccept : (nm.nmRxsyncPrologue kring).2 < kring.nkrNumSlots := by
    rw [nm.nmRxsyncPrologue_accepts kring hvalid (hretry.curValid.mpr hcurValid)]
    exact hvalid.2.2.1
  have hkeeps := nm.nmRxsyncPrologue_keeps kring
  have hkeeps' := nm.nmRxsyncPrologue_keeps kring'
  have hafter := hretry.of_keeps hkeeps hkeeps'
  have henabled : importEnabled nm (nm.nmRxsyncPrologue kring).1 flags =
      importEnabled nm (nm.nmRxsyncPrologue kring').1 flags := by
    unfold importEnabled forceUpdate
    rw [hafter.nrKflags]
  rw [rxsync_of_accept nm np mem flags haccept, rxsync_of_accept nm np mem' flags haccept',
    henabled]
  cases himport : importEnabled nm (nm.nmRxsyncPrologue kring').1 flags with
  | false =>
      refine ⟨⟨haccept, fun hsome => ?_⟩, hretry.skip hkeeps hkeeps' hvalid hvalid' np mem mem'⟩
      rw [henabled, himport] at hsome
      contradiction
  | true =>
      have ⟨hhwcur, hhwtail, _⟩ := hvalid
      have ⟨hhwcur', hhwtail', _⟩ := hvalid'
      rw [← hkeeps.nrHwcur, ← hkeeps.nkrNumSlots] at hhwcur
      rw [← hkeeps.nrHwtail, ← hkeeps.nkrNumSlots] at hhwtail
      rw [← hkeeps'.nrHwcur, ← hkeeps'.nkrNumSlots] at hhwcur'
      rw [← hkeeps'.nrHwtail, ← hkeeps'.nkrNumSlots] at hhwtail'
      obtain ⟨p, hstops', hgood'⟩ :=
        (importLoop_false_iff nm np mem' hhwcur' hhwtail').mp (hloop' himport)
      refine ⟨⟨haccept, fun _ => ?_⟩, ?_⟩
      · exact (importLoop_false_iff nm np mem hhwcur hhwtail).mpr
          ⟨p, hafter.rxStopsAt np mem mem' hstops' hgood'⟩
      · exact hretry.imports hkeeps hkeeps' hvalid hvalid' np mem mem' hstops' hgood'

end Retry

/-- A call that gives up at a bad buffer loses nothing: the indices, the shared ring and the
slots given out are as before, and once the user has repaired its ring the next successful
call shows what it would have shown without the failed one. -/
theorem rxsync_failure_loses_nothing {nm : NetmapApi} (hreinit : ReinitKeepsBuffers nm)
    (np : NetfrontInfo) (mem : Nat → UInt8) {kring : NetmapKring} (flags : UInt32)
    (haccept : (nm.nmRxsyncPrologue kring).2 < kring.nkrNumSlots)
    (henabled : importEnabled nm kring flags = true) {t : Nat}
    (hposition : BadPosition nm np kring t) :
    ∃ call, netfrontNetmapRxsync nm np mem kring flags = some call ∧
      RxGaveUp nm np mem kring t call ∧
      ∀ (repair : UserRepair) (np' : NetfrontInfo) (mem₁ mem₂ : Nat → UInt8) (flags' : UInt32),
        RxCurValid (repair.apply kring) →
        RxSucceeds nm np' mem₂ (repair.apply kring) flags' →
        RxSucceeds nm np' mem₁ (repair.apply call.kring) flags' ∧ ∃ retry direct,
          netfrontNetmapRxsync nm np' mem₁ (repair.apply call.kring) flags' = some retry ∧
            netfrontNetmapRxsync nm np' mem₂ (repair.apply kring) flags' = some direct ∧
            SameResult nm (repair.apply call.kring) (repair.apply kring) retry direct := by
  obtain ⟨call, hcall, hgaveUp⟩ := rxGaveUp_of_bad nm np mem flags haccept henabled hposition
  refine ⟨call, hcall, hgaveUp, ?_⟩
  intro repair np' mem₁ mem₂ flags' hcurValid hsucceeds
  have hretry := retryOf_apply hreinit haccept henabled hposition hcall repair
  exact hretry.retry np' mem₁ mem₂ flags' hcurValid hsucceeds

theorem reinitKeepsBuffers_netmapHeaders :
    ReinitKeepsBuffers NetmapReference.netmapHeaders := by
  intro kring i hbuf
  change NetmapReference.nmb (kring.ring.slot i).bufIdx ≠ 0 at hbuf
  have hrepair : (NetmapReference.repairSlot (kring.ring.slot i)).bufIdx =
      (kring.ring.slot i).bufIdx := by
    unfold NetmapReference.repairSlot
    rw [if_neg hbuf]
    split <;> rfl
  change ((NetmapReference.netmapRingReinit kring).1.ring.slot i).bufIdx = _
  unfold NetmapReference.netmapRingReinit
  split <;> exact hrepair

/-- The user's ring whose second slot to fill has no good buffer. -/
def secondBad : NetmapKring :=
  emptyKring fun i => if i = 1 then 0 else UInt32.ofNat (i + 1)

/-- The user gives that slot a buffer. -/
def secondRepaired : UserRepair where
  head := 0
  cur := 0
  bufIdx i := if i = 1 then some 2 else none

theorem badPosition_secondBad :
    BadPosition NetmapReference.netmapHeaders twoPending secondBad 1 where
  room := by decide
  bad := rfl
  before s hs := by
    obtain rfl : s = 0 := by omega
    decide
  pending := by decide

theorem rxsync_failure_second_bad :
    ∃ call, netfrontNetmapRxsync NetmapReference.netmapHeaders twoPending (fun _ => 0)
        secondBad 0 = some call ∧
      RxGaveUp NetmapReference.netmapHeaders twoPending (fun _ => 0) secondBad 1 call ∧
      ∃ retry direct,
        netfrontNetmapRxsync NetmapReference.netmapHeaders twoPending call.mem
            (secondRepaired.apply call.kring) 0 = some retry ∧
          netfrontNetmapRxsync NetmapReference.netmapHeaders twoPending (fun _ => 0)
            (secondRepaired.apply secondBad) 0 = some direct ∧
          retry.kring.nrHwtail = direct.kring.nrHwtail := by
  obtain ⟨call, hcall, hgaveUp, hnext⟩ := rxsync_failure_loses_nothing
    reinitKeepsBuffers_netmapHeaders twoPending (fun _ => 0) 0 (by decide) (by decide)
    badPosition_secondBad
  have hsucceeds : RxSucceeds NetmapReference.netmapHeaders twoPending (fun _ => 0)
      (secondRepaired.apply secondBad) 0 := by
    refine ⟨by decide, fun _ => ?_⟩
    exact (importLoop_false_iff _ _ _ (by decide) (by decide)).mpr ⟨2, ⟨by decide, by decide⟩,
      by decide⟩
  obtain ⟨_, retry, direct, hretry, hdirect, hsame⟩ :=
    hnext secondRepaired twoPending call.mem (fun _ => 0) 0 (by decide) hsucceeds
  exact ⟨call, hcall, hgaveUp, retry, direct, hretry, hdirect, hsame.nrHwtail⟩

end XenNet.ReceiveRetry
