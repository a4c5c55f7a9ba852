import XenNet.GrantConfinement

namespace XenNet.BufferMarks

open XenNet.NetmapKernel
open XenNet.RunHeads
open XenNet.GrantRing

def markedSlots (ring : NetmapRing) (ndesc : Nat) : List Nat :=
  (List.range ndesc).filter fun i => vifgref ring i = 1

/-- The markers tell at which slots the buffers change their page, the array lists the pages of
the marked slots, and the returned number is one less than there are marked slots. -/
structure PagesMarked (lut : UInt32 → Nat) (ring : NetmapRing) (ndesc : Nat)
    (result : BufPages × UInt16) : Prop where
  first : vifgref result.1.ring 0 = 1
  later : ∀ i, 0 < i → i < ndesc → vifgref result.1.ring i =
    if bufPage lut ring i ≠ bufPage lut ring (i - 1) then 1 else 0
  pages : (List.range (markedSlots result.1.ring ndesc).length).map result.1.pages =
    (markedSlots result.1.ring ndesc).map fun i => ⟨some (bufPage lut ring i), true⟩
  returned : result.2.toNat + 1 = (markedSlots result.1.ring ndesc).length

variable {lut : UInt32 → Nat} {ring : NetmapRing} {ndesc : Nat} {stale : Nat → Option Nat}
  {s : BufPages}

theorem markedSlots_of_fresh (hafter : BufPagesAfter lut ring stale ndesc s)
    (hfresh : stale 0 ≠ some (bufPage lut ring 0)) :
    markedSlots s.ring ndesc = (List.range ndesc).filter (IsHead (bufPage lut ring)) := by
  apply List.filter_congr
  intro i hi
  rw [hafter.vifgref i (List.mem_range.mp hi), if_congr (marks_iff_isHead hfresh i) rfl rfl]
  by_cases hhead : IsHead (bufPage lut ring) i
  · simp [hhead]
  · simp [hhead]

theorem pagesMarked_of_fresh (hdesc : 1 ≤ ndesc)
    (hafter : BufPagesAfter lut ring stale ndesc s)
    (hfresh : stale 0 ≠ some (bufPage lut ring 0))
    (hcount : Nat.count (IsHead (bufPage lut ring)) ndesc ≤ 65536) :
    PagesMarked lut ring ndesc (s, UInt16.ofNat s.bufsRefs) := by
  have hmarked := markedSlots_of_fresh hafter hfresh
  have hpos := count_isHead_pos (bufPage lut ring) hdesc
  have hmark := fun i => marks_iff_isHead hfresh i
  refine ⟨?_, ?_, ?_, ?_⟩
  · rw [hafter.vifgref 0 hdesc, if_pos (marks_zero_iff.mpr hfresh)]
  · intro i hi hlt
    obtain ⟨m, rfl⟩ := Nat.exists_eq_add_of_lt hi
    rw [hafter.vifgref _ hlt, if_congr (hmark _) rfl rfl]
    exact if_congr isHead_succ_iff rfl rfl
  · rw [hmarked, length_filter_range]
    refine map_range_count fun i hi hhead => ?_
    rw [hafter.entry i hi hhead, decide_eq_true ((hmark i).mpr hhead)]
  · change (UInt16.ofNat s.bufsRefs).toNat + 1 = (markedSlots s.ring ndesc).length
    rw [hmarked, length_filter_range, hafter.bufsRefs, UInt16.toNat_ofNat']
    omega

theorem fresh_of_pagesMarked (hdesc : 1 ≤ ndesc)
    (hafter : BufPagesAfter lut ring stale ndesc s) {n : UInt16}
    (hpages : PagesMarked lut ring ndesc (s, n)) :
    stale 0 ≠ some (bufPage lut ring 0) ∧
      Nat.count (IsHead (bufPage lut ring)) ndesc ≤ 65536 := by
  have hfresh : stale 0 ≠ some (bufPage lut ring 0) := by
    intro hstale
    have hfirst := hpages.first
    change vifgref s.ring 0 = 1 at hfirst
    rw [hafter.vifgref 0 hdesc, if_neg fun hmark => marks_zero_iff.mp hmark hstale] at hfirst
    exact absurd hfirst (by decide)
  have hreturned := hpages.returned
  change n.toNat + 1 = (markedSlots s.ring ndesc).length at hreturned
  rw [markedSlots_of_fresh hafter hfresh, length_filter_range] at hreturned
  have hbound := n.toNat_lt
  exact ⟨hfresh, by omega⟩

/-- `nm_buf_pages` marks and lists the pages exactly when the new array does not hold the page
of slot 0 at its first entry, and the pages fit the 16 bits of the returned number. -/
theorem nmBufPages_marks_iff (lut : UInt32 → Nat) (ring : NetmapRing) {ndesc : Nat}
    (hdesc : 1 ≤ ndesc) (stale : Nat → Option Nat) :
    PagesMarked lut ring ndesc (nmBufPages lut ring ndesc (vmallocPages stale)) ↔
      stale 0 ≠ some (bufPage lut ring 0) ∧
        Nat.count (IsHead (bufPage lut ring)) ndesc ≤ 65536 := by
  have hafter := nmBufPages_spec lut ring ndesc stale
  constructor
  · intro hpages
    exact fresh_of_pagesMarked hdesc hafter hpages
  · rintro ⟨hfresh, hcount⟩
    exact pagesMarked_of_fresh hdesc hafter hfresh hcount

theorem nmBufPages_marks_four_slots :
    PagesMarked sampleLut (sampleRing 4) 4
      (nmBufPages sampleLut (sampleRing 4) 4 (vmallocPages fun _ => none)) :=
  (nmBufPages_marks_iff sampleLut (sampleRing 4) (by decide) fun _ => none).mpr
    ⟨by decide, by decide⟩

/-- An array that holds the page of slot 0 leaves that slot unmarked. -/
theorem nmBufPages_marks_fail :
    ¬ ∀ (lut : UInt32 → Nat) (ring : NetmapRing) (ndesc : Nat), 1 ≤ ndesc →
      ∀ stale : Nat → Option Nat,
        PagesMarked lut ring ndesc (nmBufPages lut ring ndesc (vmallocPages stale)) := by
  intro halways
  have hfirst := (halways sampleLut (sampleRing 4) 4 (by decide) fun _ => some 1).first
  exact absurd hfirst (by decide)

end XenNet.BufferMarks
