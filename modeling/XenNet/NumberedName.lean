import Mathlib.Algebra.Ring.Nat
import Mathlib.Logic.Function.Basic
import Mathlib.Data.List.TakeWhile

namespace XenNet.NumberedName

/-- What `%u` prints. -/
def decimal (n : Nat) : List Char :=
  Nat.toDigits 10 n

theorem isDigit_of_mem_decimal {n : Nat} {c : Char} (hc : c ∈ decimal n) : c.isDigit = true :=
  Nat.isDigit_of_mem_toDigits (by decide) (by decide) hc

theorem decimal_injective : Function.Injective decimal := by
  intro m n heq
  have hvalue := congrArg (fun digits => Nat.ofDigitChars 10 digits 0) heq
  simpa [decimal] using hvalue

theorem length_decimal_le_iff {n k : Nat} (hk : 0 < k) :
    (decimal n).length ≤ k ↔ n < 10 ^ k :=
  Nat.length_toDigits_le_iff (by decide) hk

def scanDigits (text : List Char) : Option Nat :=
  match text.takeWhile Char.isDigit with
  | [] => none
  | digits => some (Nat.ofDigitChars 10 digits 0)

/-- What `%d` reads. -/
def scanDecimal (text : List Char) : Option Int :=
  match text with
  | '-' :: digits => (scanDigits digits).map fun n => -(n : Int)
  | digits => (scanDigits digits).map fun n => (n : Int)

theorem scanDigits_decimal (n : Nat) : scanDigits (decimal n) = some n := by
  have hall : (decimal n).takeWhile Char.isDigit = decimal n :=
    List.takeWhile_eq_self_iff.mpr fun c hc => isDigit_of_mem_decimal hc
  unfold scanDigits
  rw [hall]
  cases hdigits : decimal n with
  | nil => exact absurd hdigits Nat.toDigits_ne_nil
  | cons c digits =>
      have hvalue : Nat.ofDigitChars 10 (decimal n) 0 = n := Nat.ofDigitChars_ten_toDigits
      rw [hdigits] at hvalue
      exact congrArg some hvalue

theorem scanDecimal_decimal (n : Nat) : scanDecimal (decimal n) = some (n : Int) := by
  unfold scanDecimal
  split
  · rename_i digits hdigits
    have hminus : '-' ∈ decimal n := by
      rw [hdigits]
      exact List.mem_cons_self
    exact absurd (isDigit_of_mem_decimal hminus) (by decide)
  · rw [scanDigits_decimal]
    rfl

/-- What `snprintf` leaves in a buffer of `size` characters, of which one ends the text. -/
def snprintf (size : Nat) (text : List Char) : List Char :=
  text.take (size - 1)

theorem snprintf_of_lt {size : Nat} {text : List Char} (hfits : text.length < size) :
    snprintf size text = text :=
  List.take_of_length_le (by omega)

def numbered (stem : List Char) (n : Nat) : List Char :=
  stem ++ decimal n

theorem snprintf_numbered {stem : List Char} {size k : Nat} (hsize : size = stem.length + k + 1)
    (n : Nat) : snprintf size (numbered stem n) = stem ++ (decimal n).take k := by
  rw [snprintf, numbered, hsize, Nat.add_sub_cancel, List.take_append,
    List.take_of_length_le (Nat.le_add_right _ _), Nat.add_sub_cancel_left]

theorem take_decimal_of_lt {n k : Nat} (hk : 0 < k) (hn : n < 10 ^ k) :
    (decimal n).take k = decimal n :=
  List.take_of_length_le ((length_decimal_le_iff hk).mpr hn)

theorem take_decimal_ne {n k : Nat} (hk : 0 < k) (hn : 10 ^ k ≤ n) (m : Nat) :
    (decimal m).take k ≠ decimal n := by
  intro heq
  have hlength : (decimal n).length ≤ k := by
    rw [← heq]
    exact List.length_take_le _ _
  exact Nat.not_lt_of_le hn ((length_decimal_le_iff hk).mp hlength)

end XenNet.NumberedName
