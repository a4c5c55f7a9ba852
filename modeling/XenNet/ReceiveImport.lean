import Mathlib.Data.Nat.Find
import Mathlib.Logic.Function.Iterate
import XenNet.CopySequence
import XenNet.NetfrontReceive

namespace XenNet.ReceiveImport

open XenNet.CopySequence
open XenNet.CyclicIndex
open XenNet.NetmapKernel
open XenNet.NetfrontModel
open XenNet.NetfrontReceive
open XenNet.ReleasedSlots

variable (nm : NetmapApi) (ni : NetmapInfo) (slotFlags : UInt16)

def sourceSlot (cur t : Nat) : Nat :=
  (netmapRingNext ni.rxRings)^[t] cur

theorem sourceSlot_succ (cur t : Nat) :
    sourceSlot ni cur (t + 1) = netmapRingNext ni.rxRings (sourceSlot ni cur t) :=
  Function.iterate_succ_apply' _ _ _

theorem sourceSlot_eq_advance {cur : Nat} (hcur : cur < ni.rxRings.numSlots) (t : Nat) :
    sourceSlot ni cur t = advance ni.rxRings.numSlots cur t := by
  induction t with
  | zero => exact (advance_zero hcur).symm
  | succ t ih =>
      rw [sourceSlot_succ, ih,
        netmapRingNext_eq_advance (advance_lt (Nat.zero_lt_of_lt hcur) cur t), advance_advance]

/-- The copy of packet `t`, for a loop over a ring of `n` slots that starts with `st`. -/
def importCopy (n : Nat) (st : RxImport) (t : Nat) : Copy where
  dst := nm.nmb (st.ring.slot (advance n st.nmI t)).bufIdx
  src := netfrontBuf ni.rxdBufsBase (sourceSlot ni st.cur t)
  len := (ni.rxRings.slot (sourceSlot ni st.cur t)).len.toNat

def importedRing (n : Nat) (st : RxImport) (k : Nat) : NetmapRing :=
  { st.ring with
    slot := fun i =>
      if i < n ∧ distance n st.nmI i < k then
        { st.ring.slot i with
          len := (ni.rxRings.slot (sourceSlot ni st.cur (distance n st.nmI i))).len
          flags := slotFlags }
      else st.ring.slot i }

def imported (n : Nat) (st : RxImport) (k : Nat) : RxImport where
  nmI := advance n st.nmI k
  n := st.n + 2 * k
  cur := sourceSlot ni st.cur k
  j := st.j - k
  ring := importedRing ni slotFlags n st k
  mem := copies ni.bufs st.mem (importCopy nm ni n st) k

theorem importedRing_slot_of_le (n : Nat) (st : RxImport) {k i : Nat}
    (hfar : k ≤ distance n st.nmI i) :
    (importedRing ni slotFlags n st k).slot i = st.ring.slot i :=
  if_neg fun hboth => Nat.not_lt_of_le hfar hboth.2

theorem importedRing_slot_advance {n : Nat} {st : RxImport} (hnmI : st.nmI < n) {k t : Nat}
    (ht : t < k) (hk : k ≤ n) :
    (importedRing ni slotFlags n st k).slot (advance n st.nmI t) =
      { st.ring.slot (advance n st.nmI t) with
        len := (ni.rxRings.slot (sourceSlot ni st.cur t)).len
        flags := slotFlags } := by
  have hdist : distance n st.nmI (advance n st.nmI t) = t := distance_advance hnmI (by omega)
  simp only [importedRing]
  rw [hdist, if_pos ⟨advance_lt (by omega) _ _, ht⟩]

theorem importedRing_bufIdx (n : Nat) (st : RxImport) (k i : Nat) :
    ((importedRing ni slotFlags n st k).slot i).bufIdx = (st.ring.slot i).bufIdx := by
  simp only [importedRing]
  split <;> rfl

theorem imported_zero {n : Nat} {st : RxImport} (hnmI : st.nmI < n) :
    imported nm ni slotFlags n st 0 = st := by
  have hring : importedRing ni slotFlags n st 0 = st.ring := by
    simp [importedRing]
  rw [imported, hring, advance_zero hnmI]
  rfl

theorem imported_succ {n : Nat} {st : RxImport} (hnmI : st.nmI < n) {k : Nat} (hk : k < n) :
    importSlot nm ni slotFlags (n - 1) (imported nm ni slotFlags n st k) =
      imported nm ni slotFlags n st (k + 1) := by
  have hplace : advance n st.nmI k < n := advance_lt (by omega) _ _
  have hdist : distance n st.nmI (advance n st.nmI k) = k := distance_advance hnmI hk
  have hslot := importedRing_slot_of_le ni slotFlags n st (Nat.le_of_eq hdist.symm)
  have hring : (importedRing ni slotFlags n st k).setSlot (advance n st.nmI k)
      { st.ring.slot (advance n st.nmI k) with
        len := (ni.rxRings.slot (sourceSlot ni st.cur k)).len
        flags := slotFlags } = importedRing ni slotFlags n st (k + 1) := by
    simp only [NetmapRing.setSlot, importedRing, NetmapRing.mk.injEq, true_and]
    funext i
    by_cases hi : i = advance n st.nmI k
    · rw [if_pos hi, hi, hdist, if_pos ⟨hplace, Nat.lt_succ_self k⟩]
    · have hne : i < n → distance n st.nmI i ≠ k := by
        intro hin heq
        rw [← heq, advance_distance hnmI hin] at hi
        exact hi rfl
      have hiff : (i < n ∧ distance n st.nmI i < k + 1) ↔ (i < n ∧ distance n st.nmI i < k) := by
        constructor
        · rintro ⟨hin, hlt⟩
          have hne := hne hin
          exact ⟨hin, by omega⟩
        · rintro ⟨hin, hlt⟩
          exact ⟨hin, by omega⟩
      rw [if_neg hi]
      simp only [hiff]
  have hnext : nm.nmNext (advance n st.nmI k) (n - 1) = advance n st.nmI (k + 1) := by
    rw [nm.nmNext_eq_advance hplace, advance_advance]
  simp only [importSlot, imported, hslot, hring, hnext, sourceSlot_succ, copies, importCopy,
    RxImport.mk.injEq, true_and]
  exact ⟨by omega, by omega, trivial⟩

section Stop

variable (n stop : Nat) (st : RxImport)

/-- The loop meets a bad buffer as packet `t`. -/
def BadAt (t : Nat) : Prop :=
  t < distance n st.nmI stop ∧
    nm.nmb (st.ring.slot (advance n st.nmI t)).bufIdx = nm.netmapBufferBase

/-- There is room for packet `t`, its buffer is good, and the shared ring has it. -/
def GoesOn (t : Nat) : Prop :=
  t < distance n st.nmI stop ∧
    nm.nmb (st.ring.slot (advance n st.nmI t)).bufIdx ≠ nm.netmapBufferBase ∧
    ni.stat.hostNeedRxkick = true ∧ t < st.j

instance (t : Nat) : Decidable (BadAt nm n stop st t) :=
  inferInstanceAs (Decidable (_ ∧ _))

instance (t : Nat) : Decidable (GoesOn nm ni n stop st t) :=
  inferInstanceAs (Decidable (_ ∧ _ ∧ _ ∧ _))

/-- The loop ends after `p` packets. -/
structure StopsAt (p : Nat) : Prop where
  passed : ∀ t, t < p → GoesOn nm ni n stop st t
  stopped : ¬GoesOn nm ni n stop st p

theorem exists_stopsAt : ∃ p, StopsAt nm ni n stop st p := by
  have hroom : ∃ p, ¬GoesOn nm ni n stop st p :=
    ⟨distance n st.nmI stop, fun hgoes => Nat.lt_irrefl _ hgoes.1⟩
  exact ⟨Nat.find hroom, fun t ht => not_not.mp (Nat.find_min hroom ht), Nat.find_spec hroom⟩

variable {n stop st}

theorem StopsAt.le_room {p : Nat} (hstops : StopsAt nm ni n stop st p) :
    p ≤ distance n st.nmI stop := by
  cases p with
  | zero => exact Nat.zero_le _
  | succ p => exact (hstops.passed p (Nat.lt_succ_self p)).1

theorem stopsAt_of_good
    (hgood : ∀ t, t < distance n st.nmI stop →
      nm.nmb (st.ring.slot (advance n st.nmI t)).bufIdx ≠ nm.netmapBufferBase)
    (hkick : ni.stat.hostNeedRxkick = true) :
    StopsAt nm ni n stop st (min st.j (distance n st.nmI stop)) where
  passed := by
    intro t ht
    have hroom : t < distance n st.nmI stop := by omega
    exact ⟨hroom, hgood t hroom, hkick, by omega⟩
  stopped := by
    rintro ⟨hroom, _, _, hpending⟩
    omega

theorem importLoop_imported (hnmI : st.nmI < n) (hstop : stop < n) {p : Nat}
    (hp : p ≤ distance n st.nmI stop) (fuel : Nat) :
    importLoop nm ni slotFlags stop (n - 1) (fuel + 1) (imported nm ni slotFlags n st p) =
      if GoesOn nm ni n stop st p then
        importLoop nm ni slotFlags stop (n - 1) fuel (imported nm ni slotFlags n st (p + 1))
      else some (decide (BadAt nm n stop st p), imported nm ni slotFlags n st p) := by
  have hdist := distance_advance_left hnmI hstop hp
  have hplace : advance n st.nmI p = stop ↔ ¬p < distance n st.nmI stop := by
    rw [← distance_eq_zero_iff (advance_lt (by omega) _ _) hstop, hdist]
    omega
  rw [importLoop]
  change (if advance n st.nmI p = stop then _ else
    if nm.nmb ((importedRing ni slotFlags n st p).slot (advance n st.nmI p)).bufIdx =
        nm.netmapBufferBase then _ else
      if (!ni.stat.hostNeedRxkick || decide (st.j - p = 0)) = true then _ else _) = _
  rw [importedRing_bufIdx]
  by_cases hroom : p < distance n st.nmI stop
  · rw [if_neg fun heq => hplace.mp heq hroom]
    by_cases hbad : nm.nmb (st.ring.slot (advance n st.nmI p)).bufIdx = nm.netmapBufferBase
    · rw [if_pos hbad, if_neg fun hgoes => hgoes.2.1 hbad, decide_eq_true ⟨hroom, hbad⟩]
    · have hgood : ¬BadAt nm n stop st p := fun hboth => hbad hboth.2
      rw [if_neg hbad, decide_eq_false hgood]
      have hlast : (!ni.stat.hostNeedRxkick || decide (st.j - p = 0)) = true ↔
          ¬(ni.stat.hostNeedRxkick = true ∧ p < st.j) := by
        cases ni.stat.hostNeedRxkick <;> simp
        omega
      by_cases hgoes : ni.stat.hostNeedRxkick = true ∧ p < st.j
      · have hn : p < n := Nat.lt_trans hroom (distance_lt (by omega) _ _)
        rw [if_neg fun h => hlast.mp h hgoes, if_pos ⟨hroom, hbad, hgoes⟩,
          imported_succ nm ni slotFlags hnmI hn]
      · rw [if_pos (hlast.mpr hgoes), if_neg fun h => hgoes h.2.2]
  · have hgood : ¬BadAt nm n stop st p := fun hboth => hroom hboth.1
    rw [if_pos (hplace.mpr hroom), if_neg fun hgoes => hroom hgoes.1, decide_eq_false hgood]

/-- The loop ends where it cannot go on, and reports a bad buffer that stopped it. -/
theorem importLoop_eq (hnmI : st.nmI < n) (hstop : stop < n) {p : Nat}
    (hstops : StopsAt nm ni n stop st p) {fuel : Nat} (hfuel : distance n st.nmI stop < fuel) :
    importLoop nm ni slotFlags stop (n - 1) fuel st =
      some (decide (BadAt nm n stop st p), imported nm ni slotFlags n st p) := by
  have hp := hstops.le_room
  have hrounds : ∀ k, k ≤ p → ∀ fuel, p - k < fuel →
      importLoop nm ni slotFlags stop (n - 1) fuel (imported nm ni slotFlags n st k) =
        some (decide (BadAt nm n stop st p), imported nm ni slotFlags n st p) := by
    intro k hk fuel hfuel
    induction fuel generalizing k with
    | zero => omega
    | succ fuel ih =>
        rw [importLoop_imported nm ni slotFlags hnmI hstop (by omega)]
        rcases Nat.lt_or_eq_of_le hk with hlt | rfl
        · rw [if_pos (hstops.passed k hlt)]
          exact ih (k + 1) hlt (by omega)
        · rw [if_neg hstops.stopped]
  have hstart := hrounds 0 (Nat.zero_le p) fuel (by omega)
  rwa [imported_zero nm ni slotFlags hnmI] at hstart

end Stop

section Call

variable (np : NetfrontInfo) (mem : Nat → UInt8)

/-- The import loop of a call ends after `p` packets. -/
abbrev RxStopsAt (kring : NetmapKring) (p : Nat) : Prop :=
  StopsAt nm np.naPriv kring.nkrNumSlots (nm.nmPrev kring.nrHwcur (kring.nkrNumSlots - 1))
    (rxImportStart np.naPriv mem kring) p

/-- The import loop of a call meets a bad buffer as packet `p`. -/
abbrev RxBadAt (kring : NetmapKring) (p : Nat) : Prop :=
  BadAt nm kring.nkrNumSlots (nm.nmPrev kring.nrHwcur (kring.nkrNumSlots - 1))
    (rxImportStart np.naPriv mem kring) p

/-- The slots and the memory of the user after `p` packets of a call. -/
abbrev rxImportedRing (kring : NetmapKring) (p : Nat) : NetmapRing :=
  importedRing np.naPriv kring.nkrSlotFlags kring.nkrNumSlots
    (rxImportStart np.naPriv mem kring) p

abbrev rxCopies (kring : NetmapKring) (p : Nat) : Nat → UInt8 :=
  copies np.naPriv.bufs mem
    (importCopy nm np.naPriv kring.nkrNumSlots (rxImportStart np.naPriv mem kring)) p

/-- The kring of a call that imports `p` packets and takes over `head`, up to netmap's own
fields. -/
def rxKring (kring : NetmapKring) (head p : Nat) : NetmapKring :=
  { kring with
    nrHwtail := advance kring.nkrNumSlots kring.nrHwtail p
    nrKflags := kring.nrKflags &&& ~~~nm.nkrPendintr
    nrHwcur := head
    ring := releasedRing nm kring.nkrNumSlots kring.nrHwcur head
      (rxImportedRing np mem kring p) }

variable {kring : NetmapKring} {head p : Nat}

theorem importLoop_of_rxStopsAt (hhwcur : kring.nrHwcur < kring.nkrNumSlots)
    (hhwtail : kring.nrHwtail < kring.nkrNumSlots) (hstops : RxStopsAt nm np mem kring p) :
    importLoop nm np.naPriv kring.nkrSlotFlags
        (nm.nmPrev kring.nrHwcur (kring.nkrNumSlots - 1)) (kring.nkrNumSlots - 1)
        kring.nkrNumSlots (rxImportStart np.naPriv mem kring) =
      some (decide (RxBadAt nm np mem kring p),
        imported nm np.naPriv kring.nkrSlotFlags kring.nkrNumSlots
          (rxImportStart np.naPriv mem kring) p) :=
  importLoop_eq nm np.naPriv kring.nkrSlotFlags hhwtail (nm.nmPrev_lt hhwcur) hstops
    (distance_lt (by omega) _ _)

theorem importLoop_false_iff (hhwcur : kring.nrHwcur < kring.nkrNumSlots)
    (hhwtail : kring.nrHwtail < kring.nkrNumSlots) :
    (∃ st, importLoop nm np.naPriv kring.nkrSlotFlags
        (nm.nmPrev kring.nrHwcur (kring.nkrNumSlots - 1)) (kring.nkrNumSlots - 1)
        kring.nkrNumSlots (rxImportStart np.naPriv mem kring) = some (false, st)) ↔
      ∃ p, RxStopsAt nm np mem kring p ∧ ¬RxBadAt nm np mem kring p := by
  constructor
  · rintro ⟨st, hloop⟩
    obtain ⟨p, hstops⟩ := exists_stopsAt nm np.naPriv kring.nkrNumSlots
      (nm.nmPrev kring.nrHwcur (kring.nkrNumSlots - 1)) (rxImportStart np.naPriv mem kring)
    rw [importLoop_of_rxStopsAt nm np mem hhwcur hhwtail hstops, Option.some.injEq,
      Prod.mk.injEq] at hloop
    exact ⟨p, hstops, of_decide_eq_false hloop.1⟩
  · rintro ⟨p, hstops, hgood⟩
    rw [importLoop_of_rxStopsAt nm np mem hhwcur hhwtail hstops, decide_eq_false hgood]
    exact ⟨_, rfl⟩

theorem importCopy_of_keeps {kring' : NetmapKring} (hkeeps : KeepsDriverState kring kring') :
    importCopy nm np.naPriv kring'.nkrNumSlots (rxImportStart np.naPriv mem kring') =
      importCopy nm np.naPriv kring.nkrNumSlots (rxImportStart np.naPriv mem kring) := by
  funext t
  simp only [importCopy, rxImportStart, hkeeps.nkrNumSlots, hkeeps.nrHwtail, hkeeps.slot]

theorem goesOn_of_keeps {kring' : NetmapKring} (hkeeps : KeepsDriverState kring kring')
    (t : Nat) :
    GoesOn nm np.naPriv kring'.nkrNumSlots
        (nm.nmPrev kring'.nrHwcur (kring'.nkrNumSlots - 1)) (rxImportStart np.naPriv mem kring')
        t ↔
      GoesOn nm np.naPriv kring.nkrNumSlots (nm.nmPrev kring.nrHwcur (kring.nkrNumSlots - 1))
        (rxImportStart np.naPriv mem kring) t := by
  simp only [GoesOn, rxImportStart, hkeeps.nkrNumSlots, hkeeps.nrHwcur, hkeeps.nrHwtail,
    hkeeps.slot]

theorem rxStopsAt_of_keeps {kring' : NetmapKring} (hkeeps : KeepsDriverState kring kring')
    (hstops : RxStopsAt nm np mem kring p) : RxStopsAt nm np mem kring' p where
  passed t ht := (goesOn_of_keeps nm np mem hkeeps t).mpr (hstops.passed t ht)
  stopped hgoes := hstops.stopped ((goesOn_of_keeps nm np mem hkeeps p).mp hgoes)

theorem importReceived_of_bad (hhwcur : kring.nrHwcur < kring.nkrNumSlots)
    (hhwtail : kring.nrHwtail < kring.nkrNumSlots) (hstops : RxStopsAt nm np mem kring p)
    (hbad : RxBadAt nm np mem kring p) :
    importReceived nm np mem kring head =
      some ⟨np, (nm.netmapRingReinit { kring with ring := rxImportedRing np mem kring p }).1,
        rxCopies nm np mem kring p,
        (nm.netmapRingReinit { kring with ring := rxImportedRing np mem kring p }).2⟩ := by
  rw [importReceived, importLoop_of_rxStopsAt nm np mem hhwcur hhwtail hstops,
    decide_eq_true hbad]
  rfl

theorem importReceived_of_good (hhwcur : kring.nrHwcur < kring.nkrNumSlots)
    (hhwtail : kring.nrHwtail < kring.nkrNumSlots) (hhead : head < kring.nkrNumSlots)
    (hstops : RxStopsAt nm np mem kring p) (hgood : ¬RxBadAt nm np mem kring p) :
    importReceived nm np mem kring head =
      some ⟨{ np with
          naPriv := publishRx np.naPriv (2 * p)
            (sourceSlot np.naPriv np.naPriv.rxRings.cur p) },
        nm.nmRxsyncFinalize (rxKring nm np mem kring head p),
        rxCopies nm np mem kring p, 0⟩ := by
  have hcount : (0 : Nat) + 2 * p = 2 * p := Nat.zero_add _
  have hhwtail' : (if 2 * p ≠ 0 then advance kring.nkrNumSlots kring.nrHwtail p
      else kring.nrHwtail) = advance kring.nkrNumSlots kring.nrHwtail p := by
    split_ifs with hnone
    · rfl
    · have hzero : p = 0 := by omega
      rw [hzero, advance_zero hhwtail]
  rw [importReceived, importLoop_of_rxStopsAt nm np mem hhwcur hhwtail hstops,
    decide_eq_false hgood]
  simp only [skipReleased, imported, rxImportStart, hcount, hhwtail',
    releaseLoop_eq nm hhead kring.nkrNumSlots kring.nrHwcur _ hhwcur
      (distance_lt (by omega) _ _)]
  rfl

end Call

end XenNet.ReceiveImport
