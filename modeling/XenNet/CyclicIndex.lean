import Mathlib.Order.Basic
import Mathlib.Tactic.Common

/-!
Positions on a ring of `n` slots. Every position is a number below `n`, and
going past `n - 1` continues at `0`. A position is reached from another one by
`advance`, and `distance` counts the steps, so that a pair of positions is a
half-open interval of slots.
-/

namespace XenNet.CyclicIndex

/-- The position `k` steps after `a`. -/
def advance (n a k : Nat) : Nat :=
  (a + k) % n

/-- The number of steps that lead from `a` forward to `b`. -/
def distance (n a b : Nat) : Nat :=
  (b + n - a) % n

/-- Position `i` lies at or after `lo` and before `hi`. -/
def Within (n lo hi i : Nat) : Prop :=
  distance n lo i < distance n lo hi

instance (n lo hi i : Nat) : Decidable (Within n lo hi i) :=
  inferInstanceAs (Decidable (_ < _))

theorem advance_lt {n : Nat} (hn : 0 < n) (a k : Nat) : advance n a k < n :=
  Nat.mod_lt _ hn

theorem distance_lt {n : Nat} (hn : 0 < n) (a b : Nat) : distance n a b < n :=
  Nat.mod_lt _ hn

theorem advance_eq_ite {n a k : Nat} (ha : a < n) (hk : k ≤ n) :
    advance n a k = if a + k < n then a + k else a + k - n := by
  unfold advance
  split
  · rename_i hsmall
    exact Nat.mod_eq_of_lt hsmall
  · rename_i hwrap
    have hle : n ≤ a + k := by omega
    rw [Nat.mod_eq_sub_mod hle]
    by_cases hfull : a + k - n < n
    · exact Nat.mod_eq_of_lt hfull
    · omega

theorem distance_eq_ite {n a b : Nat} (ha : a < n) (hb : b < n) :
    distance n a b = if a ≤ b then b - a else b + n - a := by
  unfold distance
  split
  · rename_i hle
    have hsum : b + n - a = (b - a) + n := by omega
    rw [hsum, Nat.add_mod_right]
    exact Nat.mod_eq_of_lt (by omega)
  · rename_i hlt
    exact Nat.mod_eq_of_lt (by omega)

theorem distance_eq_emod {n a b : Nat} (ha : a ≤ n) :
    (((b : Int) - a) % n).toNat = distance n a b := by
  have hsum : ((b + n - a : Nat) : Int) = (b : Int) - a + n := by omega
  have hcast : ((distance n a b : Nat) : Int) = ((b : Int) - a) % n := by
    rw [distance, Int.natCast_emod, hsum, Int.add_emod_right]
  rw [← hcast, Int.toNat_natCast]

@[simp] theorem advance_zero {n a : Nat} (ha : a < n) : advance n a 0 = a := by
  simpa [advance] using Nat.mod_eq_of_lt ha

theorem advance_advance (n a k l : Nat) :
    advance n (advance n a k) l = advance n a (k + l) := by
  simp [advance, Nat.add_assoc]

theorem advance_one {n a : Nat} (ha : a < n) :
    advance n a 1 = if a + 1 = n then 0 else a + 1 := by
  rw [advance_eq_ite ha (by omega)]
  split_ifs <;> omega

@[simp] theorem distance_self {n a : Nat} (ha : a < n) : distance n a a = 0 := by
  rw [distance_eq_ite ha ha]
  simp

theorem distance_advance {n a k : Nat} (ha : a < n) (hk : k < n) :
    distance n a (advance n a k) = k := by
  have hadv : advance n a k < n := advance_lt (by omega) a k
  rw [distance_eq_ite ha hadv, advance_eq_ite ha (Nat.le_of_lt hk)]
  split_ifs <;> omega

theorem advance_distance {n a b : Nat} (ha : a < n) (hb : b < n) :
    advance n a (distance n a b) = b := by
  have hdist : distance n a b < n := distance_lt (by omega) a b
  rw [advance_eq_ite ha (Nat.le_of_lt hdist), distance_eq_ite ha hb]
  split_ifs <;> omega

theorem distance_eq_zero_iff {n a b : Nat} (ha : a < n) (hb : b < n) :
    distance n a b = 0 ↔ a = b := by
  rw [distance_eq_ite ha hb]
  split_ifs <;> omega

theorem eq_of_distance_eq {n a b c : Nat} (ha : a < n) (hb : b < n) (hc : c < n)
    (hdist : distance n a c = distance n b c) : a = b := by
  rw [distance_eq_ite ha hc, distance_eq_ite hb hc] at hdist
  split_ifs at hdist <;> omega

theorem distance_add_distance {n a b c : Nat} (ha : a < n) (hb : b < n) (hc : c < n)
    (hle : distance n a b ≤ distance n a c) :
    distance n a b + distance n b c = distance n a c := by
  rw [distance_eq_ite ha hb, distance_eq_ite ha hc] at hle
  rw [distance_eq_ite ha hb, distance_eq_ite ha hc, distance_eq_ite hb hc]
  split_ifs at hle ⊢ <;> omega

theorem distance_advance_left {n a b k : Nat} (ha : a < n) (hb : b < n)
    (hk : k ≤ distance n a b) :
    distance n (advance n a k) b = distance n a b - k := by
  have hdist : distance n a b < n := distance_lt (by omega) a b
  have hadv : advance n a k < n := advance_lt (by omega) a k
  have hsplit := distance_add_distance ha hadv hb
    (by rw [distance_advance ha (by omega)]; exact hk)
  rw [distance_advance ha (by omega)] at hsplit
  omega

theorem distance_advance_right {n a b k : Nat} (ha : a < n) (hb : b < n)
    (hk : distance n a b + k < n) :
    distance n a (advance n b k) = distance n a b + k := by
  have hstart : advance n a (distance n a b + k) = advance n b k := by
    rw [← advance_advance, advance_distance ha hb]
  rw [← hstart]
  exact distance_advance ha hk

theorem distance_pos_of_ne {n a b : Nat} (ha : a < n) (hb : b < n) (hne : a ≠ b) :
    0 < distance n a b := by
  have hzero := (distance_eq_zero_iff ha hb).not.mpr hne
  omega

theorem distance_succ_lt_of_advance_ne {n a b : Nat} (ha : a < n) (hb : b < n)
    (hne : advance n b 1 ≠ a) : distance n a b + 1 < n := by
  rw [advance_one hb] at hne
  rw [distance_eq_ite ha hb]
  split_ifs at hne ⊢ <;> omega

theorem within_advance_iff {n lo hi k : Nat} (hlo : lo < n) (hk : k < n) :
    Within n lo hi (advance n lo k) ↔ k < distance n lo hi := by
  unfold Within
  rw [distance_advance hlo hk]

theorem Within.exists_advance {n lo hi i : Nat} (hlo : lo < n) (hi' : i < n)
    (hwithin : Within n lo hi i) :
    ∃ k, k < distance n lo hi ∧ advance n lo k = i :=
  ⟨distance n lo i, hwithin, advance_distance hlo hi'⟩

theorem Within.not_swap {n a b i : Nat} (ha : a < n) (hb : b < n) (hi : i < n)
    (hwithin : Within n a b i) : ¬ Within n b a i := by
  unfold Within at hwithin ⊢
  rw [distance_eq_ite ha hi, distance_eq_ite ha hb] at hwithin
  rw [distance_eq_ite hb hi, distance_eq_ite hb ha]
  split_ifs at hwithin ⊢ <;> omega

theorem Within.sub_le_distance {n a b i : Nat} (ha : a < n) (hb : b < n) (hi : i < n)
    (hwithin : Within n a b i) : n - distance n a b ≤ distance n b i := by
  unfold Within at hwithin
  rw [distance_eq_ite ha hi, distance_eq_ite ha hb] at hwithin
  rw [distance_eq_ite ha hb, distance_eq_ite hb hi]
  split_ifs at hwithin ⊢ <;> omega

theorem within_advance_one_iff {n lo hi i : Nat} (hlo : lo < n) (hhi : hi < n) (hi' : i < n)
    (hne : lo ≠ hi) : Within n (advance n lo 1) hi i ↔ Within n lo hi i ∧ i ≠ lo := by
  have hnext : advance n lo 1 < n := advance_lt (by omega) lo 1
  unfold Within
  rw [distance_eq_ite hnext hi', distance_eq_ite hnext hhi, distance_eq_ite hlo hi',
    distance_eq_ite hlo hhi, advance_one hlo]
  split_ifs <;> omega

/-- The `k` successive positions that start at `a`. -/
def span (n a k : Nat) : List Nat :=
  (List.range k).map (advance n a)

@[simp] theorem span_zero (n a : Nat) : span n a 0 = [] := rfl

@[simp] theorem length_span (n a k : Nat) : (span n a k).length = k := by
  simp [span]

theorem span_succ (n a k : Nat) :
    span n a (k + 1) = span n a k ++ [advance n a k] := by
  simp [span, List.range_succ]

theorem span_add (n a k l : Nat) :
    span n a (k + l) = span n a k ++ span n (advance n a k) l := by
  induction l with
  | zero => simp
  | succ l ih =>
      rw [← Nat.add_assoc, span_succ, ih, span_succ, advance_advance,
        List.append_assoc]

theorem mem_span_iff {n a k i : Nat} :
    i ∈ span n a k ↔ ∃ t, t < k ∧ advance n a t = i := by
  simp [span]

theorem mem_span_distance_iff {n lo hi i : Nat} (hlo : lo < n) :
    i ∈ span n lo (distance n lo hi) ↔ i < n ∧ Within n lo hi i := by
  have hn : 0 < n := by omega
  rw [mem_span_iff]
  constructor
  · rintro ⟨t, ht, rfl⟩
    have htn : t < n := Nat.lt_trans ht (distance_lt hn lo hi)
    exact ⟨advance_lt hn lo t, (within_advance_iff hlo htn).mpr ht⟩
  · rintro ⟨hi', hwithin⟩
    exact hwithin.exists_advance hlo hi'

end XenNet.CyclicIndex
