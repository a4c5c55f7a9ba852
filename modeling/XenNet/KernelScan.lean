import XenNet.FormattedScan
import XenNet.NumberedName
import Mathlib.Data.UInt

namespace XenNet.KernelScan

open XenNet.FormattedScan
open XenNet.NumberedName

/-- `isspace` of the kernel's character table, which has one more space than C's. -/
def isKernelSpace (c : Char) : Bool :=
  isSpace c || c.toNat == 160

/-- `_parse_integer_fixup_radix` -/
def fixupRadix (base : Nat) (text : List Char) : Nat × List Char :=
  if base ≠ 0 then (base, dropPrefix base text)
  else
    match text with
    | '0' :: x :: c :: rest =>
        if (x = 'x' ∨ x = 'X') ∧ isDigit 16 c = true then (16, c :: rest)
        else (8, '0' :: x :: c :: rest)
    | '0' :: rest => (8, '0' :: rest)
    | text => (10, text)

/-- `simple_strtoul`: the value, and the text behind the digits. -/
def simpleStrtoul (base : Nat) (text : List Char) : UInt64 × List Char :=
  let (base, text) := fixupRadix base text
  (UInt64.ofNat (ofDigits base (text.takeWhile (isDigit base))), text.dropWhile (isDigit base))

/-- The digit that a conversion wants: `%i` stands for base `0`. -/
def startsNumber (base : Nat) (text : List Char) : Bool :=
  text.head?.any (isDigit (if base = 0 then 10 else base))

/-- A conversion without a sign, as `%u` and `%lu`. -/
def scanU (base : Nat) (text : List Char) : Option UInt64 :=
  let text := text.dropWhile isKernelSpace
  if startsNumber base text then some (simpleStrtoul base text).1 else none

/-- A conversion with a sign, as `%d` and `%li`. -/
def scanS (base : Nat) (text : List Char) : Option UInt64 :=
  match text.dropWhile isKernelSpace with
  | '-' :: text => if startsNumber base text then some (-(simpleStrtoul base text).1) else none
  | text => if startsNumber base text then some (simpleStrtoul base text).1 else none

section Numerals

variable {base : Nat} {digits rest : List Char}

theorem fixupRadix_of_ne_zero (hbase : base ≠ 0) :
    fixupRadix base digits = (base, dropPrefix base digits) :=
  if_pos hbase

theorem simpleStrtoul_append (hbase : base ≠ 0) (hnumeral : IsNumeral base digits)
    (hends : Ends base rest) :
    simpleStrtoul base (digits ++ rest) = (UInt64.ofNat (ofDigits base digits), rest) := by
  have hscan := scanUnsigned_append hnumeral hends
  unfold scanUnsigned at hscan
  simp only at hscan
  split at hscan
  · contradiction
  · obtain ⟨hvalue, hrest⟩ := Prod.mk.inj (Option.some.inj hscan)
    rw [simpleStrtoul, fixupRadix_of_ne_zero hbase]
    simp only
    rw [hvalue, hrest]

end Numerals

theorem digitValue_of_isDigit {c : Char} (hdigit : c.isDigit = true) :
    digitValue c = some (c.toNat - 48) := by
  simp only [Char.isDigit, Bool.and_eq_true, decide_eq_true_eq] at hdigit
  have hrange : 48 ≤ c.toNat ∧ c.toNat ≤ 57 := ⟨hdigit.1, hdigit.2⟩
  exact if_pos hrange

theorem isDigit_ten_of_isDigit {c : Char} (hdigit : c.isDigit = true) :
    isDigit 10 c = true := by
  rw [isDigit, digitValue_of_isDigit hdigit, Option.any_some, decide_eq_true_iff]
  simp only [Char.isDigit, Bool.and_eq_true, decide_eq_true_eq] at hdigit
  have hle : c.toNat ≤ 57 := hdigit.2
  omega

theorem isNumeral_decimal (n : Nat) : IsNumeral 10 (decimal n) :=
  ⟨Nat.toDigits_ne_nil, fun _ hc => isDigit_ten_of_isDigit (isDigit_of_mem_decimal hc)⟩

theorem ofDigits_decimal (n : Nat) : ofDigits 10 (decimal n) = n := by
  have hfold : ofDigits 10 (decimal n) = Nat.ofDigitChars 10 (decimal n) 0 := by
    rw [ofDigits, Nat.ofDigitChars_eq_foldl]
    refine List.foldl_ext _ _ 0 fun value c hc => ?_
    rw [digitValue_of_isDigit (isDigit_of_mem_decimal hc), Option.getD_some]
    rfl
  rw [hfold]
  exact Nat.ofDigitChars_ten_toDigits

theorem simpleStrtoul_decimal {rest : List Char} (n : Nat) (hends : Ends 10 rest) :
    simpleStrtoul 10 (decimal n ++ rest) = (UInt64.ofNat n, rest) := by
  rw [simpleStrtoul_append (by decide) (isNumeral_decimal n) hends, ofDigits_decimal]

theorem dropWhile_isKernelSpace_decimal (n : Nat) :
    (decimal n).dropWhile isKernelSpace = decimal n := by
  cases hdigits : decimal n with
  | nil => rfl
  | cons c digits =>
      have hc : c.isDigit = true := by
        refine isDigit_of_mem_decimal (n := n) ?_
        rw [hdigits]
        exact List.mem_cons_self
      have hspace : isKernelSpace c = false := by
        have hten := isDigit_ten_of_isDigit hc
        simp only [Char.isDigit, Bool.and_eq_true, decide_eq_true_eq] at hc
        have hle : c.toNat ≤ 57 := hc.2
        rw [isKernelSpace, isSpace_of_isDigit hten, Bool.false_or, beq_eq_false_iff_ne]
        omega
      exact List.dropWhile_cons_of_neg (by simp [hspace])

theorem startsNumber_decimal (n : Nat) : startsNumber 10 (decimal n) = true := by
  obtain ⟨hne, hall⟩ := isNumeral_decimal n
  unfold startsNumber
  cases hdigits : decimal n with
  | nil => contradiction
  | cons c digits =>
      rw [hdigits] at hall
      exact hall c List.mem_cons_self

theorem scanU_decimal (n : Nat) : scanU 10 (decimal n) = some (UInt64.ofNat n) := by
  have hends : Ends 10 [] := fun c hc => by contradiction
  have hread := simpleStrtoul_decimal n hends
  rw [List.append_nil] at hread
  rw [scanU, dropWhile_isKernelSpace_decimal, if_pos (startsNumber_decimal n), hread]

end XenNet.KernelScan
