import Mathlib.Data.List.Basic

namespace XenNet.LongOptions

abbrev Word := List Char

variable {α : Type*}

/-- The letters and the names of the options. -/
structure OptionTable (α : Type*) where
  short : Char → Option α
  long : List (Word × α)

/-- An option with its argument; `unknown` is the answer `'?'`. -/
inductive Found (α : Type*) where
  | option (a : α) (optarg : Word)
  | unknown
  deriving Repr, DecidableEq

/-- A name stands for the option itself, or for the only option that it begins. -/
def OptionTable.named (table : OptionTable α) (name : Word) : Option α :=
  match table.long.lookup name with
  | some a => some a
  | none =>
      match table.long.filter fun entry => name.isPrefixOf entry.1 with
      | [entry] => some entry.2
      | _ => none

/-- The letters of a word, up to the first that is an option; what is behind it is its argument,
and without that it waits for the next word. -/
def scanLetters (table : OptionTable α) : Word → List (Found α) × Option α
  | [] => ([], none)
  | c :: cs =>
      match table.short c with
      | some a => if cs = [] then ([], some a) else ([.option a cs], none)
      | none =>
          let (found, waiting) := scanLetters table cs
          (.unknown :: found, waiting)

/-- A name, with its argument if there is an equals sign. -/
def scanName (table : OptionTable α) (word : Word) : List (Found α) × Option α :=
  match table.named (word.takeWhile (· ≠ '=')), word.dropWhile (· ≠ '=') with
  | some a, [] => ([], some a)
  | some a, _ :: optarg => ([.option a optarg], none)
  | none, _ => ([.unknown], none)

/-- The options in the words; the option `waiting` has its argument to come. -/
def getoptLong (table : OptionTable α) (waiting : Option α) : List Word → List (Found α)
  | [] =>
      match waiting with
      | some _ => [.unknown]
      | none => []
  | word :: words =>
      match waiting with
      | some a => .option a word :: getoptLong table none words
      | none =>
          match word with
          | ['-', '-'] => []
          | '-' :: '-' :: name =>
              let (found, waiting) := scanName table name
              found ++ getoptLong table waiting words
          | '-' :: c :: cs =>
              let (found, waiting) := scanLetters table (c :: cs)
              found ++ getoptLong table waiting words
          | _ => getoptLong table none words

section Rules

variable {table : OptionTable α}

theorem getoptLong_letter {c : Char} {a : α} (hc : c ≠ '-') (ha : table.short c = some a)
    (optarg : Word) (words : List Word) :
    getoptLong table none (['-', c] :: optarg :: words) =
      .option a optarg :: getoptLong table none words := by
  rw [getoptLong]
  · simp only [scanLetters, ha, if_true, List.nil_append]
    rfl
  · intro hstop
    exact absurd hstop hc
  · exact hc

theorem getoptLong_operand {word : Word} (hword : word.head? ≠ some '-') (words : List Word) :
    getoptLong table none (word :: words) = getoptLong table none words := by
  rw [getoptLong]
  · rintro rfl
    exact hword rfl
  · rintro name rfl
    exact hword rfl
  · rintro c cs rfl
    exact hword rfl

theorem getoptLong_letters {opts : List (Char × α × Word)}
    (hopts : ∀ opt ∈ opts, opt.1 ≠ '-' ∧ table.short opt.1 = some opt.2.1) :
    getoptLong table none (opts.flatMap fun opt => [['-', opt.1], opt.2.2]) =
      opts.map fun opt => .option opt.2.1 opt.2.2 := by
  induction opts with
  | nil => rfl
  | cons opt opts ih =>
      obtain ⟨hc, ha⟩ := hopts opt List.mem_cons_self
      rw [List.flatMap_cons, List.map_cons, List.cons_append, List.cons_append, List.nil_append,
        getoptLong_letter hc ha, ih fun opt' hopt' => hopts opt' (List.mem_cons_of_mem opt hopt')]

end Rules

end XenNet.LongOptions
