import XenNet.ByteMemory

namespace XenNet.CopySequence

open XenNet.ByteMemory

variable {β : Type*}

structure Copy where
  dst : Nat
  src : Nat
  len : Nat
  deriving Repr, DecidableEq

/-- The cell at address `a` is written. -/
def Copy.Covers (c : Copy) (a : Nat) : Prop :=
  c.dst ≤ a ∧ a < c.dst + c.len

instance (c : Copy) (a : Nat) : Decidable (c.Covers a) :=
  inferInstanceAs (Decidable (_ ∧ _))

/-- The memory after the first `k` copies. -/
def copies (src mem : Nat → β) (f : Nat → Copy) : Nat → Nat → β
  | 0 => mem
  | k + 1 => memcpy (copies src mem f k) (f k).dst src (f k).src (f k).len

theorem memcpy_of_covers (mem src : Nat → β) {c : Copy} {a : Nat} (hcovers : c.Covers a) :
    memcpy mem c.dst src c.src c.len a = src (c.src + (a - c.dst)) :=
  if_pos hcovers

theorem memcpy_of_not_covers (mem src : Nat → β) {c : Copy} {a : Nat}
    (houtside : ¬c.Covers a) : memcpy mem c.dst src c.src c.len a = mem a :=
  if_neg houtside

theorem copies_outside (src mem : Nat → β) {f : Nat → Copy} {k a : Nat}
    (houtside : ∀ t, t < k → ¬(f t).Covers a) : copies src mem f k a = mem a := by
  induction k with
  | zero => rfl
  | succ k ih =>
      rw [copies, memcpy_of_not_covers _ _ (houtside k (Nat.lt_succ_self k))]
      exact ih fun t ht => houtside t (Nat.lt_succ_of_lt ht)

/-- The last copy over a cell decides. -/
theorem copies_of_last (src mem : Nat → β) {f : Nat → Copy} {k t a : Nat} (ht : t < k)
    (hcovers : (f t).Covers a) (hlast : ∀ s, t < s → s < k → ¬(f s).Covers a) :
    copies src mem f k a = src ((f t).src + (a - (f t).dst)) := by
  induction k with
  | zero => omega
  | succ k ih =>
      rcases Nat.lt_succ_iff_lt_or_eq.mp ht with hlt | rfl
      · rw [copies, memcpy_of_not_covers _ _ (hlast k hlt (Nat.lt_succ_self k))]
        exact ih hlt fun s hts hsk => hlast s hts (Nat.lt_succ_of_lt hsk)
      · exact memcpy_of_covers _ _ hcovers

theorem exists_last_copy {f : Nat → Copy} {k a : Nat} (hsome : ∃ t, t < k ∧ (f t).Covers a) :
    ∃ t, t < k ∧ (f t).Covers a ∧ ∀ s, t < s → s < k → ¬(f s).Covers a := by
  induction k with
  | zero =>
      obtain ⟨t, ht, _⟩ := hsome
      omega
  | succ k ih =>
      by_cases hlast : (f k).Covers a
      · exact ⟨k, Nat.lt_succ_self k, hlast, fun s hks hsk => by omega⟩
      · obtain ⟨t, ht, hcovers⟩ := hsome
        have htk : t ≠ k := fun heq => hlast (heq ▸ hcovers)
        obtain ⟨t, ht, hcovers, hlater⟩ := ih ⟨t, by omega, hcovers⟩
        refine ⟨t, by omega, hcovers, fun s hts hsk => ?_⟩
        rcases Nat.lt_succ_iff_lt_or_eq.mp hsk with hlt | rfl
        · exact hlater s hts hlt
        · exact hlast

theorem copies_keep_iff (src mem : Nat → β) (f : Nat → Copy) (k : Nat) (P : Nat → Prop) :
    (∀ a, P a → copies src mem f k a = mem a) ↔
      ∀ t, t < k → ∀ a, P a → (f t).Covers a → (∀ s, t < s → s < k → ¬(f s).Covers a) →
        src ((f t).src + (a - (f t).dst)) = mem a := by
  constructor
  · intro hkeep t ht a ha hcovers hlater
    rw [← copies_of_last src mem ht hcovers hlater]
    exact hkeep a ha
  · intro hlast a ha
    by_cases hsome : ∃ t, t < k ∧ (f t).Covers a
    · obtain ⟨t, ht, hcovers, hlater⟩ := exists_last_copy hsome
      rw [copies_of_last src mem ht hcovers hlater]
      exact hlast t ht a ha hcovers hlater
    · exact copies_outside src mem fun t ht hcovers => hsome ⟨t, ht, hcovers⟩

theorem bytes_copies (src mem : Nat → β) {f : Nat → Copy} {k t : Nat} (ht : t < k)
    (hlater : ∀ s, t < s → s < k → ∀ a, (f t).Covers a → ¬(f s).Covers a) :
    bytes (copies src mem f k) (f t).dst (f t).len = bytes src (f t).src (f t).len := by
  apply bytes_eq_iff.mpr
  intro o ho
  have hcovers : (f t).Covers ((f t).dst + o) := ⟨Nat.le_add_right _ _, by omega⟩
  rw [copies_of_last src mem ht hcovers fun s hts hsk => hlater s hts hsk _ hcovers,
    Nat.add_sub_cancel_left]

theorem copies_congr (src mem mem' : Nat → β) {f : Nat → Copy} {k t a : Nat} (ht : t < k)
    (hcovers : (f t).Covers a) : copies src mem f k a = copies src mem' f k a := by
  induction k with
  | zero => omega
  | succ k ih =>
      simp only [copies]
      by_cases hlast : (f k).Covers a
      · rw [memcpy_of_covers _ _ hlast, memcpy_of_covers _ _ hlast]
      · rw [memcpy_of_not_covers _ _ hlast, memcpy_of_not_covers _ _ hlast]
        rcases Nat.lt_succ_iff_lt_or_eq.mp ht with hlt | rfl
        · exact ih hlt
        · contradiction

theorem copies_congr_copy (src mem : Nat → β) {f g : Nat → Copy} {k : Nat}
    (hfg : ∀ t, t < k → f t = g t) : copies src mem f k = copies src mem g k := by
  induction k with
  | zero => rfl
  | succ k ih =>
      rw [copies, copies, hfg k (Nat.lt_succ_self k),
        ih fun t ht => hfg t (Nat.lt_succ_of_lt ht)]

end XenNet.CopySequence
