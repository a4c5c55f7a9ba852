import Mathlib.Algebra.Group.Nat.Defs
import Mathlib.Data.Nat.Basic
import Mathlib.Data.Set.Function
import Mathlib.Order.Monotone.Basic
import Mathlib.Order.Interval.Set.Defs

namespace XenNet.FixedNumeral

variable {α : Type*} {b : Nat} {digit : Nat → α}

/-- The last `w` digits of `n` in base `b`. -/
def fixed (digit : Nat → α) (b : Nat) : Nat → Nat → List α
  | 0, _ => []
  | w + 1, n => fixed digit b w (n / b) ++ [digit (n % b)]

@[simp] theorem length_fixed (w n : Nat) : (fixed digit b w n).length = w := by
  induction w generalizing n with
  | zero => rfl
  | succ w ih => simp [fixed, ih]

theorem mem_fixed (hb : 0 < b) {w n : Nat} {x : α} (hx : x ∈ fixed digit b w n) :
    ∃ d, d < b ∧ x = digit d := by
  induction w generalizing n with
  | zero => contradiction
  | succ w ih =>
      rw [fixed, List.mem_append, List.mem_singleton] at hx
      rcases hx with hx | hx
      · exact ih hx
      · exact ⟨n % b, Nat.mod_lt n hb, hx⟩

theorem fixed_mod (w n : Nat) : fixed digit b w (n % b ^ w) = fixed digit b w n := by
  induction w generalizing n with
  | zero => rfl
  | succ w ih =>
      have hrest : n % b ^ (w + 1) / b = n / b % b ^ w := by
        rw [Nat.pow_succ', Nat.mod_mul_right_div_self]
      have hlast : n % b ^ (w + 1) % b = n % b :=
        Nat.mod_mod_of_dvd n ⟨b ^ w, Nat.pow_succ'⟩
      rw [fixed, fixed, hrest, hlast, ih]

theorem fixed_add (w v n : Nat) :
    fixed digit b (w + v) n = fixed digit b w (n / b ^ v) ++ fixed digit b v n := by
  induction v generalizing n with
  | zero => simp [fixed]
  | succ v ih =>
      rw [← Nat.add_assoc, fixed, ih, fixed, Nat.div_div_eq_div_mul, ← Nat.pow_succ',
        List.append_assoc]

theorem append_singleton_lt_iff [LinearOrder α] {xs ys : List α} (hlength : xs.length = ys.length)
    {x y : α} : xs ++ [x] < ys ++ [y] ↔ xs < ys ∨ xs = ys ∧ x < y := by
  induction xs generalizing ys with
  | nil =>
      obtain rfl := List.length_eq_zero_iff.mp hlength.symm
      simp [List.cons_lt_cons_iff]
  | cons x' xs ih =>
      cases ys with
      | nil => contradiction
      | cons y' ys =>
          rw [List.cons_append, List.cons_append, List.cons_lt_cons_iff, List.cons_lt_cons_iff,
            ih (Nat.succ.inj hlength), List.cons.injEq, and_or_left, ← or_assoc, ← and_assoc]

theorem lt_iff_div_mod (m n : Nat) : m < n ↔ m / b < n / b ∨ m / b = n / b ∧ m % b < n % b := by
  constructor
  · intro hlt
    rcases Nat.lt_or_eq_of_le (Nat.div_le_div_right hlt.le) with hdiv | hdiv
    · exact Or.inl hdiv
    · have hm := Nat.div_add_mod m b
      have hn := Nat.div_add_mod n b
      rw [hdiv] at hm
      exact Or.inr ⟨hdiv, by omega⟩
  · rintro (hdiv | ⟨hdiv, hmod⟩)
    · exact lt_of_not_ge fun hle => Nat.not_lt_of_le (Nat.div_le_div_right hle) hdiv
    · have hm := Nat.div_add_mod m b
      have hn := Nat.div_add_mod n b
      rw [hdiv] at hm
      omega

section Compare

variable [LinearOrder α]

theorem fixed_inj (hdigit : StrictMonoOn digit (Set.Iio b)) {w m n : Nat} (hm : m < b ^ w)
    (hn : n < b ^ w) :
    fixed digit b w m = fixed digit b w n ↔ m = n := by
  induction w generalizing m n with
  | zero =>
      rw [Nat.pow_zero, Nat.lt_one_iff] at hm hn
      exact iff_of_true rfl (hm.trans hn.symm)
  | succ w ih =>
      rw [Nat.pow_succ'] at hm hn
      have hb : 0 < b := Nat.pos_of_mul_pos_right (Nat.zero_lt_of_lt hm)
      have hlast : digit (m % b) = digit (n % b) ↔ m % b = n % b :=
        hdigit.injOn.eq_iff (Nat.mod_lt m hb) (Nat.mod_lt n hb)
      have hsplit : m / b = n / b ∧ m % b = n % b ↔ m = n := by
        constructor
        · rintro ⟨hdiv, hmod⟩
          rw [← Nat.div_add_mod m b, hdiv, hmod, Nat.div_add_mod]
        · rintro rfl
          exact ⟨rfl, rfl⟩
      rw [fixed, fixed, List.append_singleton_inj, hlast,
        ih (Nat.div_lt_of_lt_mul hm) (Nat.div_lt_of_lt_mul hn), hsplit]

theorem fixed_lt_fixed_iff (hdigit : StrictMonoOn digit (Set.Iio b)) {w m n : Nat}
    (hm : m < b ^ w) (hn : n < b ^ w) :
    fixed digit b w m < fixed digit b w n ↔ m < n := by
  induction w generalizing m n with
  | zero =>
      rw [Nat.pow_zero, Nat.lt_one_iff] at hm hn
      rw [hm, hn]
      exact iff_of_false (List.lt_irrefl _) (lt_irrefl _)
  | succ w ih =>
      rw [Nat.pow_succ'] at hm hn
      have hb : 0 < b := Nat.pos_of_mul_pos_right (Nat.zero_lt_of_lt hm)
      have hm' := Nat.div_lt_of_lt_mul hm
      have hn' := Nat.div_lt_of_lt_mul hn
      have hlast : digit (m % b) < digit (n % b) ↔ m % b < n % b :=
        hdigit.lt_iff_lt (Nat.mod_lt m hb) (Nat.mod_lt n hb)
      rw [fixed, fixed, append_singleton_lt_iff (by simp), ih hm' hn', fixed_inj hdigit hm' hn',
        hlast, ← lt_iff_div_mod]

end Compare

theorem fixed_zero (b w : Nat) :
    fixed Nat.digitChar b w 0 = List.replicate w '0' := by
  induction w with
  | zero => rfl
  | succ w ih =>
      rw [fixed, Nat.zero_div, ih, Nat.zero_mod, List.replicate_succ']
      rfl

theorem leftpad_toDigits (hb : 1 < b) {w n : Nat} (hw : 0 < w) (hn : n < b ^ w) :
    (Nat.toDigits b n).leftpad w '0' = fixed Nat.digitChar b w n := by
  induction w generalizing n with
  | zero => contradiction
  | succ w ih =>
      rcases Nat.lt_or_ge n b with hsmall | hlarge
      · rw [Nat.toDigits_of_lt_base hsmall, fixed, Nat.div_eq_of_lt hsmall, fixed_zero,
          Nat.mod_eq_of_lt hsmall]
        rfl
      · have hw' : 0 < w := by
          rcases Nat.eq_zero_or_pos w with rfl | hpos
          · rw [Nat.zero_add, Nat.pow_one] at hn
            exact absurd hn (Nat.not_lt_of_le hlarge)
          · exact hpos
        have hrest : n / b < b ^ w := Nat.div_lt_of_lt_mul (Nat.pow_succ' ▸ hn)
        rw [Nat.toDigits_of_base_le hb hlarge, fixed, ← ih hw' hrest]
        simp [List.leftpad]

end XenNet.FixedNumeral
