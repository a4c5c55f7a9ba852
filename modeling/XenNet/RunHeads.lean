import Mathlib.Data.Nat.Count
import Mathlib.Tactic.Common

namespace XenNet.RunHeads

variable {α : Type*}

/-- Position `i` starts a run of equal values. -/
def IsHead (g : Nat → α) (i : Nat) : Prop :=
  i = 0 ∨ g i ≠ g (i - 1)

instance [DecidableEq α] (g : Nat → α) : DecidablePred (IsHead g) :=
  fun _ => inferInstanceAs (Decidable (_ ∨ _))

theorem isHead_zero (g : Nat → α) : IsHead g 0 :=
  Or.inl rfl

theorem isHead_succ_iff {g : Nat → α} {i : Nat} : IsHead g (i + 1) ↔ g (i + 1) ≠ g i := by
  simp [IsHead]

theorem eq_of_not_isHead {g : Nat → α} {i : Nat} (hnot : ¬ IsHead g (i + 1)) :
    g (i + 1) = g i := by
  by_contra hne
  exact hnot (isHead_succ_iff.mpr hne)

theorem isHead_congr {g g' : Nat → α} {n i : Nat} (hsame : ∀ k, k < n → g' k = g k)
    (hi : i < n) : IsHead g' i ↔ IsHead g i := by
  unfold IsHead
  rw [hsame i hi, hsame (i - 1) (by omega)]

theorem eq_zero_of_not_isHead {g : Nat → α} {n : Nat}
    (hnone : ∀ i, 0 < i → i < n → ¬ IsHead g i) {i : Nat} (hi : i < n) : g i = g 0 := by
  induction i with
  | zero => rfl
  | succ i ih =>
      have hsame := eq_of_not_isHead (hnone (i + 1) (Nat.succ_pos i) hi)
      exact hsame.trans (ih (by omega))

theorem isHead_of_even {g : Nat → α} {n i : Nat}
    (hshort : ∀ i, i + 1 < n → IsHead g i ∨ IsHead g (i + 1)) (hi : i < n) (heven : i % 2 = 0)
    (hodd : ∀ k, k < i → k % 2 = 1 → ¬IsHead g k) : IsHead g i := by
  cases i with
  | zero => exact isHead_zero g
  | succ i => exact (hshort i hi).resolve_left (hodd i (Nat.lt_succ_self i) (by omega))

theorem exists_head (g : Nat → α) (i : Nat) :
    ∃ j, j ≤ i ∧ IsHead g j ∧ g j = g i ∧ (IsHead g i → j = i) := by
  induction i with
  | zero => exact ⟨0, Nat.le_refl 0, isHead_zero g, rfl, fun _ => rfl⟩
  | succ i ih =>
      by_cases hhead : IsHead g (i + 1)
      · exact ⟨i + 1, Nat.le_refl _, hhead, rfl, fun _ => rfl⟩
      · obtain ⟨j, hj, hjhead, hvalue, _⟩ := ih
        have hsame := eq_of_not_isHead hhead
        exact ⟨j, by omega, hjhead, hvalue.trans hsame.symm, fun h => absurd h hhead⟩

theorem exists_isHead_iff {g : Nat → α} {n : Nat} :
    (∃ i, 0 < i ∧ i < n ∧ IsHead g i) ↔ ¬ ∀ i, i < n → g i = g 0 := by
  constructor
  · rintro ⟨i, hpos, hi, hhead⟩ hconst
    rcases hhead with hzero | hne
    · omega
    · exact hne ((hconst i hi).trans (hconst (i - 1) (by omega)).symm)
  · intro hconst
    by_contra hnone
    push Not at hnone
    exact hconst fun i hi => eq_zero_of_not_isHead hnone hi

theorem exists_of_lt_count {p : Nat → Prop} [DecidablePred p] {n k : Nat}
    (hk : k < Nat.count p n) : ∃ i, i < n ∧ p i ∧ Nat.count p i = k := by
  induction n with
  | zero => simp at hk
  | succ n ih =>
      by_cases hbefore : k < Nat.count p n
      · obtain ⟨i, hi, hpi, hcount⟩ := ih hbefore
        exact ⟨i, by omega, hpi, hcount⟩
      · rw [Nat.count_succ] at hk
        by_cases hpn : p n
        · rw [if_pos hpn] at hk
          exact ⟨n, Nat.lt_succ_self n, hpn, by omega⟩
        · rw [if_neg hpn] at hk
          omega

theorem map_range_count {β : Type*} {p : Nat → Prop} [DecidablePred p] {f g : Nat → β} {n : Nat}
    (hentry : ∀ i, i < n → p i → f (Nat.count p i) = g i) :
    (List.range (Nat.count p n)).map f = ((List.range n).filter p).map g := by
  induction n with
  | zero => simp
  | succ n ih =>
      have hbefore := ih fun i hi => hentry i (by omega)
      rw [Nat.count_succ, List.range_succ (n := n), List.filter_append, List.map_append,
        ← hbefore]
      by_cases hp : p n
      · rw [if_pos hp, List.range_succ, List.map_append, List.map_singleton,
          hentry n (Nat.lt_succ_self n) hp]
        simp [hp]
      · simp [hp]

theorem count_add_count {p q : Nat → Prop} [DecidablePred p] [DecidablePred q]
    (hnot : ∀ i, q i ↔ ¬p i) (n : Nat) : Nat.count p n + Nat.count q n = n := by
  induction n with
  | zero => simp
  | succ n ih =>
      rw [Nat.count_succ, Nat.count_succ]
      by_cases hp : p n
      · rw [if_pos hp, if_neg fun hq => (hnot n).mp hq hp]
        omega
      · rw [if_neg hp, if_pos ((hnot n).mpr hp)]
        omega

theorem length_filter_range (p : Nat → Prop) [DecidablePred p] (n : Nat) :
    ((List.range n).filter p).length = Nat.count p n := by
  have hlength := congrArg List.length
    (map_range_count (p := p) (f := fun _ => ()) (g := fun _ => ()) (n := n) fun _ _ _ => rfl)
  simpa using hlength.symm

variable [DecidableEq α]

theorem count_isHead_pos (g : Nat → α) {n : Nat} (hn : 0 < n) :
    0 < Nat.count (IsHead g) n := by
  have hlt := Nat.count_strict_mono (isHead_zero g) hn
  omega

theorem count_isHead_of_pairs {g : Nat → α} {n : Nat}
    (hhead : ∀ i, i < n → (IsHead g i ↔ i % 2 = 0)) {i : Nat} (hi : i ≤ n) :
    Nat.count (IsHead g) i = (i + 1) / 2 := by
  induction i with
  | zero => simp
  | succ i ih =>
      rw [Nat.count_succ, ih (by omega), if_congr (hhead i (by omega)) rfl rfl]
      split <;> omega

theorem count_isHead_pairs {g : Nat → α} {k : Nat}
    (hshort : ∀ i, i + 1 < 2 * k → IsHead g i ∨ IsHead g (i + 1)) :
    k ≤ Nat.count (IsHead g) (2 * k) ∧
      (Nat.count (IsHead g) (2 * k) = k → ∀ i, i < 2 * k → (IsHead g i ↔ i % 2 = 0)) := by
  induction k with
  | zero => exact ⟨Nat.zero_le _, fun _ i hi => absurd hi (Nat.not_lt_zero i)⟩
  | succ k ih =>
      obtain ⟨hle, hpairs⟩ := ih fun i hi => hshort i (by omega)
      have hpair := hshort (2 * k) (by omega)
      have hcount : Nat.count (IsHead g) (2 * (k + 1)) = Nat.count (IsHead g) (2 * k) +
          (if IsHead g (2 * k) then 1 else 0) + (if IsHead g (2 * k + 1) then 1 else 0) := by
        rw [show 2 * (k + 1) = 2 * k + 1 + 1 by omega, Nat.count_succ, Nat.count_succ]
      refine ⟨?_, fun heq i hi => ?_⟩
      · rcases hpair with hfirst | hsecond
        · rw [hcount, if_pos hfirst]
          omega
        · rw [hcount, if_pos hsecond]
          omega
      · have hone : Nat.count (IsHead g) (2 * k) = k := by
          rcases hpair with hfirst | hsecond
          · rw [hcount, if_pos hfirst] at heq
            omega
          · rw [hcount, if_pos hsecond] at heq
            omega
        have hbefore := hpairs hone
        -- the position before the pair is no head, so the pair begins with one
        have hfirst : IsHead g (2 * k) := by
          refine isHead_of_even hshort (by omega) (by omega) fun i hi hodd => ?_
          rw [hbefore i hi]
          omega
        have hsecond : ¬IsHead g (2 * k + 1) := by
          intro hhead
          rw [hcount, if_pos hfirst, if_pos hhead] at heq
          omega
        rcases Nat.lt_trichotomy i (2 * k) with hlt | rfl | hgt
        · exact hbefore i hlt
        · exact ⟨fun _ => by omega, fun _ => hfirst⟩
        · obtain rfl : i = 2 * k + 1 := by omega
          exact ⟨fun hhead => absurd hhead hsecond, fun heven => by omega⟩

/-- Where no run has three positions, at most half as many runs begin as there are positions
exactly when the positions come in pairs of equal values. -/
theorem count_isHead_le_half_iff {g : Nat → α} {n : Nat}
    (hshort : ∀ i, i + 1 < n → IsHead g i ∨ IsHead g (i + 1)) :
    Nat.count (IsHead g) n ≤ n / 2 ↔
      n % 2 = 0 ∧ ∀ k, 2 * k + 1 < n → g (2 * k + 1) = g (2 * k) := by
  obtain ⟨m, hm⟩ : ∃ m, n = 2 * m ∨ n = 2 * m + 1 := ⟨n / 2, by omega⟩
  obtain ⟨hle, hpairs⟩ := count_isHead_pairs (g := g) (k := m) fun i hi => hshort i (by omega)
  rcases hm with rfl | rfl
  · constructor
    · intro hhalf
      refine ⟨by omega, fun k hk => eq_of_not_isHead ?_⟩
      rw [hpairs (by omega) (2 * k + 1) hk]
      omega
    · rintro ⟨_, hequal⟩
      have hodd : ∀ i, i < 2 * m → i % 2 = 1 → ¬IsHead g i := by
        intro i hi hone hhead
        obtain ⟨k, rfl⟩ : ∃ k, i = 2 * k + 1 := ⟨i / 2, by omega⟩
        exact isHead_succ_iff.mp hhead (hequal k hi)
      have hhead : ∀ i, i < 2 * m → (IsHead g i ↔ i % 2 = 0) := by
        intro i hi
        constructor
        · intro hhead
          by_contra hone
          exact hodd i hi (by omega) hhead
        · intro heven
          exact isHead_of_even hshort hi heven fun k hk => hodd k (by omega)
      rw [count_isHead_of_pairs hhead (Nat.le_refl _)]
      omega
  · -- the last position stands alone and begins a run of its own
    constructor
    · intro hhalf
      rw [Nat.count_succ] at hhalf
      have hlast : ¬Nat.count (IsHead g) (2 * m) = m := by
        intro heq
        have hhead : IsHead g (2 * m) := by
          refine isHead_of_even hshort (by omega) (by omega) fun i hi hodd => ?_
          rw [hpairs heq i hi]
          omega
        rw [if_pos hhead] at hhalf
        omega
      omega
    · rintro ⟨hodd, _⟩
      omega

end XenNet.RunHeads
