import XenNet.FormattedScan
import Mathlib.Algebra.Order.Field.Rat
import Mathlib.Order.Lattice
import Mathlib.Data.Char

namespace XenNet.AwkComparison

open XenNet.FormattedScan

/-- The exponent of a floating constant, behind its `e`. -/
def exponent : List Char → Option Int
  | '-' :: digits => if IsNumeral 10 digits then some (-(ofDigits 10 digits : Int)) else none
  | '+' :: digits => if IsNumeral 10 digits then some (ofDigits 10 digits) else none
  | digits => if IsNumeral 10 digits then some (ofDigits 10 digits) else none

/-- The digits behind the point, and the text behind them. -/
def fraction : List Char → List Char × List Char
  | '.' :: text => (text.takeWhile (isDigit 10), text.dropWhile (isDigit 10))
  | text => ([], text)

/-- The value of a decimal or floating constant without a sign. -/
def constant (text : List Char) : Option ℚ :=
  let whole := text.takeWhile (isDigit 10)
  let frac := fraction (text.dropWhile (isDigit 10))
  let mantissa : ℚ := (ofDigits 10 (whole ++ frac.1) : ℚ) / 10 ^ frac.1.length
  if whole ++ frac.1 = [] then none
  else
    match frac.2 with
    | [] => some mantissa
    | c :: text =>
        if c = 'e' ∨ c = 'E' then (exponent text).map fun e => mantissa * 10 ^ e else none

/-- The number that a text looks like. Blanks around it do not count. -/
def number (text : List Char) : Option ℚ :=
  match ((text.dropWhile isSpace).reverse.dropWhile isSpace).reverse with
  | '-' :: text => (constant text).map fun x => -x
  | '+' :: text => constant text
  | text => constant text

/-- The truth value of a text. -/
def truth (text : List Char) : Bool :=
  match number text with
  | some x => decide (x ≠ 0)
  | none => decide (text ≠ [])

/-- `x < y`. -/
def less (x y : List Char) : Bool :=
  match number x, number y with
  | some a, some b => decide (a < b)
  | _, _ => decide (x < y)

/-- `x <= y`. -/
def lessEq (x y : List Char) : Bool :=
  !less y x

/-- The fields of a record between the separators, with `skip` characters of a separator still
to go and the characters of the current field so far. -/
def fieldsFrom (sep : List Char) (skip : Nat) (field : List Char) :
    List Char → List (List Char)
  | [] => [field.reverse]
  | c :: text =>
      match skip with
      | skip + 1 => fieldsFrom sep skip field text
      | 0 =>
          if sep.isPrefixOf (c :: text) then
            field.reverse :: fieldsFrom sep (sep.length - 1) [] text
          else fieldsFrom sep 0 (c :: field) text

def fields (sep text : List Char) : List (List Char) :=
  fieldsFrom sep 0 [] text

/-- `$n`, for a positive `n`. A field that does not exist is empty. -/
def field (fields : List (List Char)) (n : Nat) : List Char :=
  (fields[n - 1]?).getD []

example : fields "--".toList "diff--xen-netback--30600".toList =
    ["diff".toList, "xen-netback".toList, "30600".toList] := by decide

/-- A text of hexadecimal digits has no blanks, signs or points. -/
def IsPlain (text : List Char) : Prop :=
  ∀ c ∈ text, isDigit 16 c = true

section Plain

variable {text : List Char}

theorem dropWhile_isSpace (hplain : IsPlain text) : text.dropWhile isSpace = text := by
  cases text with
  | nil => rfl
  | cons c text =>
      have hspace := isSpace_of_isDigit (hplain c List.mem_cons_self)
      exact List.dropWhile_cons_of_neg (by simp [hspace])

theorem IsPlain.reverse (hplain : IsPlain text) : IsPlain text.reverse :=
  fun c hc => hplain c (List.mem_reverse.mp hc)

theorem IsPlain.dropWhile (hplain : IsPlain text) (p : Char → Bool) :
    IsPlain (text.dropWhile p) :=
  fun c hc => hplain c ((List.dropWhile_sublist p).mem hc)

theorem IsPlain.ne_head (hplain : IsPlain text) {sign : Char} {rest : List Char}
    (hsign : digitValue sign = none) : text ≠ sign :: rest := by
  rintro rfl
  exact ne_of_isDigit (hplain sign List.mem_cons_self) hsign rfl

theorem number_plain (hplain : IsPlain text) : number text = constant text := by
  unfold number
  rw [dropWhile_isSpace hplain, dropWhile_isSpace hplain.reverse, List.reverse_reverse]
  split
  · exact absurd rfl (hplain.ne_head (by decide))
  · exact absurd rfl (hplain.ne_head (by decide))
  · rfl

theorem fraction_plain (hplain : IsPlain text) : fraction text = ([], text) := by
  unfold fraction
  split
  · exact absurd rfl (hplain.ne_head (by decide))
  · rfl

theorem exponent_plain (hplain : IsPlain text) {e : Int} (hexponent : exponent text = some e) :
    e = (ofDigits 10 text : Int) := by
  unfold exponent at hexponent
  split at hexponent
  · exact absurd rfl (hplain.ne_head (by decide))
  · exact absurd rfl (hplain.ne_head (by decide))
  · split at hexponent
    · exact (Option.some.inj hexponent).symm
    · contradiction

theorem number_plain_eq_some (hplain : IsPlain text) {q : ℚ} (hnumber : number text = some q) :
    ∃ k : Nat, q = ((ofDigits 10 (text.takeWhile (isDigit 10)) * 10 ^ k : Nat) : ℚ) := by
  have hrest : IsPlain (text.dropWhile (isDigit 10)) := hplain.dropWhile _
  rw [number_plain hplain, constant, fraction_plain hrest] at hnumber
  simp only [List.append_nil, List.length_nil, pow_zero, div_one] at hnumber
  split at hnumber
  · contradiction
  · split at hnumber
    · refine ⟨0, ?_⟩
      rw [← Option.some.inj hnumber]
      simp
    · rename_i c text' htext
      split at hnumber
      · obtain ⟨e, hexponent, rfl⟩ := Option.map_eq_some_iff.mp hnumber
        have hplain' : IsPlain text' := fun d hd => hrest d (htext ▸ List.mem_cons_of_mem c hd)
        refine ⟨ofDigits 10 text', ?_⟩
        rw [exponent_plain hplain' hexponent]
        push_cast
        rw [zpow_natCast]
      · contradiction

end Plain

theorem le_foldl_digits (n : Nat) (digits : List Char) :
    n ≤ digits.foldl (fun n c => 10 * n + (digitValue c).getD 0) n := by
  induction digits generalizing n with
  | nil => exact Nat.le_refl n
  | cons c digits ih =>
      have hle : n ≤ 10 * n + (digitValue c).getD 0 := by omega
      exact Nat.le_trans hle (ih _)

theorem ofDigits_le_append (digits more : List Char) :
    ofDigits 10 digits ≤ ofDigits 10 (digits ++ more) := by
  unfold ofDigits
  rw [List.foldl_append]
  exact le_foldl_digits _ more

end XenNet.AwkComparison
