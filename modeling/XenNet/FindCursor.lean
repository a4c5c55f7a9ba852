import Mathlib.Data.List.FinRange

namespace XenNet.FindCursor

variable {n : Nat} (p : Fin n → Bool)

def fromOn (i : Nat) (j : Fin n) : Bool :=
  decide (i ≤ j.val) && p j

theorem fromOn_iff {i : Nat} {j : Fin n} : fromOn p i j = true ↔ i ≤ j.val ∧ p j = true := by
  simp [fromOn]

/-- The first index from `i` on that satisfies `p`. -/
def findFrom (i : Nat) : Option (Fin n) :=
  (List.finRange n).find? (fromOn p i)

/-- The indices that are still to come when the cursor is at `i`. -/
def remaining (i : Nat) : List (Fin n) :=
  (List.finRange n).filter (fromOn p i)

theorem mem_remaining {i : Nat} {j : Fin n} : j ∈ remaining p i ↔ i ≤ j.val ∧ p j = true := by
  rw [remaining, List.mem_filter, fromOn_iff]
  exact and_iff_right (List.mem_finRange j)

theorem pairwise_remaining (i : Nat) : (remaining p i).Pairwise (· < ·) :=
  (List.pairwise_lt_finRange n).sublist List.filter_sublist

theorem length_remaining_le (i : Nat) : (remaining p i).length ≤ n :=
  (List.length_filter_le _ _).trans_eq List.length_finRange

theorem remaining_of_findFrom_none {i : Nat} (hnone : findFrom p i = none) :
    remaining p i = [] := by
  apply List.filter_eq_nil_iff.mpr
  exact List.find?_eq_none.mp hnone

theorem remaining_of_findFrom_some {i : Nat} {j : Fin n} (hsome : findFrom p i = some j) :
    remaining p i = j :: remaining p (j.val + 1) := by
  obtain ⟨hj, before, after, hsplit, hbefore⟩ := List.find?_eq_some_iff_append.mp hsome
  have hsorted := List.pairwise_lt_finRange n
  rw [hsplit, List.pairwise_append, List.pairwise_cons] at hsorted
  obtain ⟨-, ⟨hafter, -⟩, hless⟩ := hsorted
  have hij : i ≤ j.val := ((fromOn_iff p).mp hj).1
  have hskipped : before.filter (fromOn p i) = [] := by
    apply List.filter_eq_nil_iff.mpr
    intro a ha
    simpa using hbefore a ha
  have hearlier : before.filter (fromOn p (j.val + 1)) = [] := by
    apply List.filter_eq_nil_iff.mpr
    intro a ha hfrom
    have hlt : a.val < j.val := hless a ha j List.mem_cons_self
    have hle := ((fromOn_iff p).mp hfrom).1
    omega
  have hself : ¬ fromOn p (j.val + 1) j = true := by
    intro hfrom
    have hle := ((fromOn_iff p).mp hfrom).1
    omega
  have hlater : after.filter (fromOn p i) = after.filter (fromOn p (j.val + 1)) := by
    apply List.filter_congr
    intro a ha
    have hgt : j.val < a.val := hafter a ha
    rw [fromOn, fromOn, decide_eq_true (by omega : i ≤ a.val),
      decide_eq_true (by omega : j.val + 1 ≤ a.val)]
  rw [remaining, remaining, hsplit, List.filter_append, List.filter_append, hskipped, hearlier,
    List.filter_cons_of_pos hj, List.filter_cons_of_neg hself, hlater]
  rfl

end XenNet.FindCursor
