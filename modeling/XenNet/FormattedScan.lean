import Mathlib.Data.List.TakeWhile

namespace XenNet.FormattedScan

def digitValue (c : Char) : Option Nat :=
  let n := c.toNat
  if 48 ≤ n ∧ n ≤ 57 then some (n - 48)
  else if 97 ≤ n ∧ n ≤ 102 then some (n - 87)
  else if 65 ≤ n ∧ n ≤ 70 then some (n - 55)
  else none

def isDigit (base : Nat) (c : Char) : Bool :=
  (digitValue c).any (· < base)

def isSpace (c : Char) : Bool :=
  decide (c.toNat = 32 ∨ 9 ≤ c.toNat ∧ c.toNat ≤ 13)

/-- The number that the digits stand for. -/
def ofDigits (base : Nat) (digits : List Char) : Nat :=
  digits.foldl (fun n c => base * n + (digitValue c).getD 0) 0

/-- A hexadecimal number may begin with `0x`. -/
def dropPrefix (base : Nat) : List Char → List Char
  | '0' :: c :: text =>
      if base = 16 ∧ (c = 'x' ∨ c = 'X') then text else '0' :: c :: text
  | text => text

def scanUnsigned (base : Nat) (text : List Char) : Option (Nat × List Char) :=
  let text := dropPrefix base text
  let digits := text.takeWhile (isDigit base)
  if digits = [] then none
  else some (ofDigits base digits, text.dropWhile (isDigit base))

/-- One conversion: the number and the text behind it. -/
def scanNumber (base : Nat) (text : List Char) : Option (Int × List Char) :=
  match text.dropWhile isSpace with
  | '-' :: text => (scanUnsigned base text).map fun (n, rest) => (-(n : Int), rest)
  | '+' :: text => (scanUnsigned base text).map fun (n, rest) => ((n : Int), rest)
  | text => (scanUnsigned base text).map fun (n, rest) => ((n : Int), rest)

inductive Directive where
  | number (base : Nat)
  | literal (c : Char)
  deriving DecidableEq, Repr

/-- The numbers of the conversions that are done. -/
def sscanf : List Directive → List Char → List Int
  | [], _ => []
  | .number base :: format, text =>
      match scanNumber base text with
      | some (n, rest) => n :: sscanf format rest
      | none => []
  | .literal c :: format, text =>
      match text with
      | c' :: rest => if c' = c then sscanf format rest else []
      | [] => []

def atoi (text : List Char) : Int :=
  ((scanNumber 10 text).map Prod.fst).getD 0

/-- The format of `count + 1` numbers with separators between them. -/
def separated (base : Nat) (sep : Char) : Nat → List Directive
  | 0 => [.number base]
  | count + 1 => .number base :: .literal sep :: separated base sep count

/-- A nonempty sequence of digits. -/
def IsNumeral (base : Nat) (digits : List Char) : Prop :=
  digits ≠ [] ∧ ∀ c ∈ digits, isDigit base c = true

instance (base : Nat) (digits : List Char) : Decidable (IsNumeral base digits) :=
  have : Decidable (∀ c ∈ digits, isDigit base c = true) := List.decidableBAll _ digits
  inferInstanceAs (Decidable (digits ≠ [] ∧ ∀ c ∈ digits, isDigit base c = true))

/-- The text does not go on with a digit, nor with what could make a prefix. -/
def Ends (base : Nat) (rest : List Char) : Prop :=
  ∀ c ∈ rest.head?, isDigit base c = false ∧ c ≠ 'x' ∧ c ≠ 'X'

section Numerals

variable {base : Nat} {c : Char} {digits rest : List Char}

theorem isSpace_of_isDigit (hdigit : isDigit base c = true) : isSpace c = false := by
  unfold isDigit digitValue at hdigit
  simp only [isSpace, decide_eq_false_iff_not]
  intro hspace
  rw [if_neg (by omega), if_neg (by omega), if_neg (by omega)] at hdigit
  contradiction

theorem ne_of_isDigit {sign : Char} (hdigit : isDigit base c = true)
    (hsign : digitValue sign = none) : c ≠ sign := by
  rintro rfl
  rw [isDigit, hsign] at hdigit
  contradiction

theorem dropPrefix_of_ne (hne : ∀ c ∈ (digits.tail).head?, c ≠ 'x' ∧ c ≠ 'X') :
    dropPrefix base digits = digits := by
  unfold dropPrefix
  split
  · rename_i c text
    have hc := hne c rfl
    rw [if_neg fun hprefix => hprefix.2.elim hc.1 hc.2]
  · rfl

theorem head?_tail_append (hnumeral : IsNumeral base digits) (hends : Ends base rest) :
    ∀ c ∈ ((digits ++ rest).tail).head?, c ≠ 'x' ∧ c ≠ 'X' := by
  obtain ⟨hne, hall⟩ := hnumeral
  cases digits with
  | nil => contradiction
  | cons d digits =>
      intro c hc
      cases digits with
      | nil => exact (hends c hc).2
      | cons d' digits =>
          obtain rfl : d' = c := Option.some.inj hc
          have hdigit := hall d' (List.mem_cons_of_mem d List.mem_cons_self)
          exact ⟨ne_of_isDigit hdigit (by decide), ne_of_isDigit hdigit (by decide)⟩

theorem scanUnsigned_append (hnumeral : IsNumeral base digits) (hends : Ends base rest) :
    scanUnsigned base (digits ++ rest) = some (ofDigits base digits, rest) := by
  have hrest : rest.takeWhile (isDigit base) = [] ∧ rest.dropWhile (isDigit base) = rest := by
    cases rest with
    | nil => exact ⟨rfl, rfl⟩
    | cons c rest =>
        have hc := (hends c rfl).1
        exact ⟨List.takeWhile_cons_of_neg (by simp [hc]), List.dropWhile_cons_of_neg (by simp [hc])⟩
  rw [scanUnsigned, dropPrefix_of_ne (head?_tail_append hnumeral hends),
    List.takeWhile_append_of_pos hnumeral.2, List.dropWhile_append_of_pos hnumeral.2, hrest.1,
    hrest.2, List.append_nil]
  exact if_neg hnumeral.1

theorem scanNumber_append (hnumeral : IsNumeral base digits) (hends : Ends base rest) :
    scanNumber base (digits ++ rest) = some ((ofDigits base digits : Int), rest) := by
  have hscan := scanUnsigned_append hnumeral hends
  obtain ⟨hne, hall⟩ := hnumeral
  cases digits with
  | nil => contradiction
  | cons c digits =>
      have hdigit := hall c List.mem_cons_self
      have hspace := isSpace_of_isDigit hdigit
      unfold scanNumber
      rw [List.cons_append, List.dropWhile_cons_of_neg (by simp [hspace])]
      rw [List.cons_append] at hscan
      split
      · rename_i heq
        exact absurd (List.cons.inj heq).1 (ne_of_isDigit hdigit (by decide))
      · rename_i heq
        exact absurd (List.cons.inj heq).1 (ne_of_isDigit hdigit (by decide))
      · rw [hscan]
        rfl

end Numerals

theorem sscanf_separated {base : Nat} {sep : Char} (hsep : Ends base [sep])
    {groups : List (List Char)} (hgroups : ∀ g ∈ groups, IsNumeral base g) {count : Nat}
    (hcount : groups.length = count + 1) :
    sscanf (separated base sep count) (List.intercalate [sep] groups) =
      groups.map fun g => (ofDigits base g : Int) := by
  induction count generalizing groups with
  | zero =>
      obtain ⟨g, rfl⟩ := List.length_eq_one_iff.mp hcount
      have hends : Ends base [] := fun c hc => by contradiction
      have hscan := scanNumber_append (hgroups g List.mem_cons_self) hends
      rw [List.append_nil] at hscan
      rw [List.intercalate_singleton, separated, sscanf, hscan]
      rfl
  | succ count ih =>
      match groups, hcount with
      | g :: g' :: groups, hcount =>
          have hrest := ih (fun g'' hg => hgroups g'' (List.mem_cons_of_mem g hg))
            (Nat.succ.inj hcount)
          have hends : Ends base (sep :: List.intercalate [sep] (g' :: groups)) := hsep
          have hscan := scanNumber_append (hgroups g List.mem_cons_self) hends
          have htext : List.intercalate [sep] (g :: g' :: groups) =
              g ++ sep :: List.intercalate [sep] (g' :: groups) := by
            rw [List.intercalate_cons_cons, List.append_assoc]
            rfl
          rw [htext, separated, sscanf, hscan]
          simp only [sscanf, if_true, hrest]
          rfl

def magnitude : List Char → List Char
  | '-' :: digits => digits
  | digits => digits

/-- A decimal numeral, with or without a minus sign. -/
def IsInteger (text : List Char) : Prop :=
  IsNumeral 10 (magnitude text)

instance (text : List Char) : Decidable (IsInteger text) :=
  inferInstanceAs (Decidable (IsNumeral 10 _))

def intValue : List Char → Int
  | '-' :: digits => -(ofDigits 10 digits : Int)
  | digits => ofDigits 10 digits

theorem atoi_integer {text : List Char} (hinteger : IsInteger text) :
    atoi text = intValue text := by
  have hends : Ends 10 [] := fun c hc => by contradiction
  unfold IsInteger magnitude at hinteger
  unfold intValue atoi
  split at hinteger
  · rename_i digits
    have hscan := scanUnsigned_append hinteger hends
    rw [List.append_nil] at hscan
    have hminus : scanNumber 10 ('-' :: digits) = some (-(ofDigits 10 digits : Int), []) := by
      rw [scanNumber, List.dropWhile_cons_of_neg (by decide)]
      simp only [hscan]
      rfl
    rw [hminus]
    rfl
  · have hscan := scanNumber_append hinteger hends
    rw [List.append_nil] at hscan
    rw [hscan]
    rfl

end XenNet.FormattedScan
