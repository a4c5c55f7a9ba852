import Mathlib.Data.List.DropRight
import XenNet.RouteTable
import XenNet.FormattedScan

/-!
`parse_options` of `bdgfnctl.c`, which fills the request from the command line. `sscanf`
stores an `int` for each byte of an address: four bytes, of which three belong to what comes
behind.
-/

namespace XenNet.ParseOptions

open XenNet.ByteMemory
open XenNet.LastWrite
open XenNet.BridgeKernel
open XenNet.RouteTable
open XenNet.FormattedScan

/-- Byte `k` of a word as a little-endian machine stores it. -/
def leByte (v : UInt32) (k : Nat) : UInt8 :=
  UInt8.ofNat (v.toNat / 2 ^ (8 * k))

def storeInt (mem : Nat → UInt8) (p : Nat) (n : Int) : Nat → UInt8 :=
  memcpy mem p (leByte (UInt32.ofInt n)) 0 4

/-- Each number goes to the element behind that of the number before. -/
def storeEach : (Nat → UInt8) → Nat → List Int → Nat → UInt8
  | mem, _, [] => mem
  | mem, p, n :: ns => storeEach (storeInt mem p n) (p + 1) ns

/-- What `getopt_long` returns; `unknown` is its `'?'`. -/
inductive OptChar where
  | b
  | p
  | d
  | m
  | ip4
  | ip6
  | vport
  | unknown
  deriving DecidableEq, Repr

structure Opt where
  ch : OptChar
  optarg : List Char
  deriving DecidableEq, Repr

/-- `breq` as the bytes of the structure, and the variables that `parse_options` sets. -/
structure CtlState where
  breq : Nat → UInt8
  bdgenv : UInt32
  vport : Option (List Char)

def bdgctlEnvMac : UInt32 := 0x1

def bdgctlEnvIp4 : UInt32 := 0x2

/-- `"%0x:%0x:%0x:%0x:%0x:%0x"`. -/
def macFormat : List Directive :=
  separated 16 ':' 5

/-- `"%d.%d.%d.%d"`. -/
def ip4Format : List Directive :=
  separated 10 '.' 3

def parseOption (s : CtlState) (opt : Opt) : CtlState :=
  match opt.ch with
  | .b => { s with breq := storeInt s.breq 12 (atoi opt.optarg) }
  | .p => { s with breq := storeInt s.breq 8 (atoi opt.optarg) }
  | .d => { s with breq := storeInt s.breq 16 (atoi opt.optarg) }
  | .m => { s with breq := storeEach s.breq 0 (sscanf macFormat opt.optarg)
                   bdgenv := s.bdgenv ||| bdgctlEnvMac }
  | .ip4 => { s with breq := storeEach s.breq 0 (sscanf ip4Format opt.optarg)
                     bdgenv := s.bdgenv ||| bdgctlEnvIp4 }
  | .vport => { s with vport := some opt.optarg }
  | .ip6 | .unknown => s

def parseOptions (s : CtlState) (opts : List Opt) : CtlState :=
  opts.foldl parseOption s

/-- The fields of the structure at their offsets. -/
def bdgreqOf (mem : Nat → UInt8) : Bdgreq where
  addr := Vector.ofFn fun k => mem k.val
  bdgPort := le32 (pointer mem 8)
  bdgIdx := le32 (pointer mem 12)
  nrDst := le32 (pointer mem 16)
  nrArg1 := le32 (pointer mem 20)

theorem le32_eq_iff {buf : Nat → UInt8} {v : UInt32} :
    le32 buf = v ↔ ∀ k, k < 4 → buf k = leByte v k := by
  have hlt := eight_bytes_lt buf
  have hv : v.toNat < 2 ^ 32 := v.toNat_lt
  have hle : ∀ k, (leByte v k).toNat = v.toNat / 2 ^ (8 * k) % 2 ^ 8 := by
    intro k
    exact UInt8.toNat_ofNat'
  rw [← UInt32.toNat_inj, le32, UInt32.toNat_ofNat']
  constructor
  · intro hvalue k hk
    rw [← UInt8.toNat_inj, hle]
    match k, hk with
    | 0, _ => omega
    | 1, _ => omega
    | 2, _ => omega
    | 3, _ => omega
  · intro hbytes
    have hsame : ∀ k, k < 4 → (buf k).toNat = v.toNat / 2 ^ (8 * k) % 2 ^ 8 := by
      intro k hk
      rw [hbytes k hk, hle]
    have h0 := hsame 0 (by omega)
    have h1 := hsame 1 (by omega)
    have h2 := hsame 2 (by omega)
    have h3 := hsame 3 (by omega)
    omega

theorem leByte_le32 (buf : Nat → UInt8) {k : Nat} (hk : k < 4) :
    leByte (le32 buf) k = buf k :=
  (le32_eq_iff.mp rfl k hk).symm

theorem leByte_byte (x : UInt8) {k : Nat} (hk : k < 4) :
    leByte (UInt32.ofInt (x.toNat : Int)) k = ofList [x] 0 k := by
  have hx : x.toNat < 2 ^ 8 := x.toNat_lt
  have hvalue : (UInt32.ofInt (x.toNat : Int)).toNat = x.toNat := by
    rw [UInt32.ofInt, UInt32.toNat_ofNat']
    omega
  rw [leByte, hvalue]
  match k, hk with
  | 0, _ =>
      rw [Nat.mul_zero, Nat.pow_zero, Nat.div_one, UInt8.ofNat_toNat]
      rfl
  | 1, _ =>
      rw [Nat.div_eq_of_lt hx]
      rfl
  | 2, _ =>
      rw [Nat.div_eq_of_lt (hx.trans (by decide))]
      rfl
  | 3, _ =>
      rw [Nat.div_eq_of_lt (hx.trans (by decide))]
      rfl

theorem storeEach_bytes (mem : Nat → UInt8) (p : Nat) {xs : List UInt8} (hxs : xs ≠ []) :
    storeEach mem p (xs.map fun x => (x.toNat : Int)) =
      memcpy mem p (ofList xs 0) 0 (xs.length + 3) := by
  induction xs generalizing mem p with
  | nil => contradiction
  | cons x xs ih =>
      have hfirst : storeInt mem p (x.toNat : Int) = memcpy mem p (ofList [x] 0) 0 4 := by
        funext a
        unfold storeInt memcpy
        split
        · rename_i hinside
          rw [Nat.zero_add, leByte_byte x (by omega)]
        · rfl
      rw [List.map_cons, storeEach, hfirst]
      cases xs with
      | nil => rfl
      | cons y ys =>
          rw [ih _ _ (List.cons_ne_nil y ys)]
          funext a
          rcases Nat.lt_trichotomy a p with hlt | rfl | hgt
          · rw [memcpy_outside _ _ _ (Or.inl (by omega)), memcpy_outside _ _ _ (Or.inl hlt),
              memcpy_outside _ _ _ (Or.inl hlt)]
          · rw [memcpy_outside _ _ _ (Or.inl (Nat.lt_succ_self a))]
            have hone := memcpy_inside mem (ofList [x] 0) a 0 (show 0 < 4 by decide)
            have hall := memcpy_inside mem (ofList (x :: y :: ys) 0) a 0
              (show 0 < (x :: y :: ys).length + 3 from Nat.succ_pos _)
            exact hone.trans hall.symm
          · obtain ⟨k, rfl⟩ := Nat.exists_eq_add_of_lt hgt
            by_cases hk : k < (y :: ys).length + 3
            · have hlater := memcpy_inside (memcpy mem p (ofList [x] 0) 0 4) (ofList (y :: ys) 0)
                (p + 1) 0 hk
              have hall := memcpy_inside mem (ofList (x :: y :: ys) 0) p 0
                (show k + 1 < (x :: y :: ys).length + 3 from Nat.succ_lt_succ hk)
              rw [Nat.add_right_comm] at hlater
              exact hlater.trans hall.symm
            · simp only [List.length_cons] at hk ⊢
              rw [memcpy_outside _ _ _ (Or.inr (by omega)),
                memcpy_outside _ _ _ (Or.inr (by omega)),
                memcpy_outside _ _ _ (Or.inr (by omega))]

/-- What a copy to address `p` writes at address `a`. -/
def copyWrite (p : Nat) (src : Nat → UInt8) (len a : Nat) : Option UInt8 :=
  if p ≤ a ∧ a < p + len then some (src (a - p)) else none

theorem copyWrite_inside (p : Nat) (src : Nat → UInt8) {len k : Nat} (hk : k < len) :
    copyWrite p src len (p + k) = some (src k) := by
  rw [copyWrite, if_pos (by omega), Nat.add_sub_cancel_left]

theorem copyWrite_outside {p : Nat} (src : Nat → UInt8) {len a : Nat}
    (ha : a < p ∨ p + len ≤ a) : copyWrite p src len a = none :=
  if_neg (by omega)

theorem memcpy_eq_copyWrite (mem : Nat → UInt8) (p : Nat) (src : Nat → UInt8) (len a : Nat) :
    memcpy mem p src 0 len a = (copyWrite p src len a).getD (mem a) := by
  unfold memcpy copyWrite
  split
  · rw [Nat.zero_add]
    rfl
  · rfl

/-- The bytes that the numerals of a text stand for. -/
def groupBytes (base : Nat) (sep : Char) (text : List Char) : List UInt8 :=
  (text.splitOn sep).map fun g => UInt8.ofNat (ofDigits base g)

/-- `count` numerals below 256 with separators between them. -/
def IsBytes (base : Nat) (sep : Char) (count : Nat) (text : List Char) : Prop :=
  (text.splitOn sep).length = count ∧
    ∀ g ∈ text.splitOn sep, IsNumeral base g ∧ ofDigits base g < 256

instance (base : Nat) (sep : Char) (count : Nat) (text : List Char) :
    Decidable (IsBytes base sep count text) :=
  inferInstanceAs (Decidable (_ ∧ ∀ g ∈ text.splitOn sep, _))

theorem sscanf_bytes {base : Nat} {sep : Char} (hsep : Ends base [sep]) {count : Nat}
    {text : List Char} (htext : IsBytes base sep (count + 1) text) :
    sscanf (separated base sep count) text =
      (groupBytes base sep text).map fun x => (x.toNat : Int) := by
  have hscan := sscanf_separated hsep (fun g hg => (htext.2 g hg).1) htext.1
  rw [List.intercalate_splitOn] at hscan
  rw [hscan, groupBytes, List.map_map]
  apply List.map_congr_left
  intro g hg
  have hbyte := (htext.2 g hg).2
  simp only [Function.comp_apply]
  rw [UInt8.toNat_ofNat_of_lt' hbyte]

def intArg (text : List Char) : UInt32 :=
  UInt32.ofInt (intValue text)

/-- The argument is one that the option is for. -/
def WellFormed (opt : Opt) : Prop :=
  match opt.ch with
  | .b | .p | .d =>
      IsInteger opt.optarg ∧ -0x80000000 ≤ intValue opt.optarg ∧
        intValue opt.optarg < 0x80000000
  | .m => IsBytes 16 ':' 6 opt.optarg
  | .ip4 => IsBytes 10 '.' 4 opt.optarg
  | .ip6 | .vport | .unknown => False

instance : (opt : Opt) → Decidable (WellFormed opt)
  | ⟨.b, _⟩ | ⟨.p, _⟩ | ⟨.d, _⟩ => inferInstanceAs (Decidable (_ ∧ _ ∧ _))
  | ⟨.m, _⟩ => inferInstanceAs (Decidable (IsBytes _ _ _ _))
  | ⟨.ip4, _⟩ => inferInstanceAs (Decidable (IsBytes _ _ _ _))
  | ⟨.ip6, _⟩ | ⟨.vport, _⟩ | ⟨.unknown, _⟩ => isFalse fun hfalse => hfalse

/-- What a well-formed option writes at byte `a` of the request. -/
def optionWrite (a : Nat) (opt : Opt) : Option UInt8 :=
  match opt.ch with
  | .b => copyWrite 12 (leByte (intArg opt.optarg)) 4 a
  | .p => copyWrite 8 (leByte (intArg opt.optarg)) 4 a
  | .d => copyWrite 16 (leByte (intArg opt.optarg)) 4 a
  | .m => copyWrite 0 (ofList (groupBytes 16 ':' opt.optarg) 0) 9 a
  | .ip4 => copyWrite 0 (ofList (groupBytes 10 '.' opt.optarg) 0) 7 a
  | .ip6 | .vport | .unknown => none

theorem length_groupBytes {base : Nat} {sep : Char} {count : Nat} {text : List Char}
    (htext : IsBytes base sep count text) : (groupBytes base sep text).length = count := by
  rw [groupBytes, List.length_map, htext.1]

theorem storeEach_sscanf {base : Nat} {sep : Char} (hsep : Ends base [sep]) {count : Nat}
    {text : List Char} (htext : IsBytes base sep (count + 1) text) (mem : Nat → UInt8) :
    storeEach mem 0 (sscanf (separated base sep count) text) =
      memcpy mem 0 (ofList (groupBytes base sep text) 0) 0 (count + 1 + 3) := by
  have hlength := length_groupBytes htext
  have hne : groupBytes base sep text ≠ [] := List.ne_nil_of_length_eq_add_one hlength
  rw [sscanf_bytes hsep htext, storeEach_bytes mem 0 hne, hlength]

theorem parseOption_apply {opt : Opt} (hopt : WellFormed opt) (s : CtlState) (a : Nat) :
    (parseOption s opt).breq a = (optionWrite a opt).getD (s.breq a) := by
  obtain ⟨ch, optarg⟩ := opt
  have hcolon : Ends 16 [':'] := by
    rintro c ⟨rfl⟩
    decide
  have hdot : Ends 10 ['.'] := by
    rintro c ⟨rfl⟩
    decide
  unfold optionWrite
  cases ch with
  | b =>
      simp only [parseOption, storeInt, atoi_integer hopt.1]
      exact memcpy_eq_copyWrite _ _ _ _ _
  | p =>
      simp only [parseOption, storeInt, atoi_integer hopt.1]
      exact memcpy_eq_copyWrite _ _ _ _ _
  | d =>
      simp only [parseOption, storeInt, atoi_integer hopt.1]
      exact memcpy_eq_copyWrite _ _ _ _ _
  | m =>
      simp only [parseOption, macFormat, storeEach_sscanf hcolon hopt]
      exact memcpy_eq_copyWrite _ _ _ _ _
  | ip4 =>
      simp only [parseOption, ip4Format, storeEach_sscanf hdot hopt]
      exact memcpy_eq_copyWrite _ _ _ _ _
  | ip6 => exact hopt.elim
  | vport => exact hopt.elim
  | unknown => exact hopt.elim

/-- Every byte of the request is what the last option that reaches it wrote. -/
theorem parseOptions_apply {opts : List Opt} (hopts : ∀ opt ∈ opts, WellFormed opt)
    (s : CtlState) (a : Nat) :
    (parseOptions s opts).breq a = (lastWrite (optionWrite a) opts).getD (s.breq a) :=
  @read_foldl_of_mem _ _ _ parseOption (fun s => s.breq a) (optionWrite a) opts
    (fun opt hopt s => parseOption_apply (hopts opt hopt) s a) s

/-- The argument of the option, if it is `ch`. -/
def optArg (ch : OptChar) (opt : Opt) : Option (List Char) :=
  if opt.ch = ch then some opt.optarg else none

def lastArg (ch : OptChar) (opts : List Opt) : Option (List Char) :=
  lastWrite (optArg ch) opts

theorem mem_of_lastArg {ch : OptChar} {opts : List Opt} {text : List Char}
    (htext : lastArg ch opts = some text) : ∃ opt ∈ opts, opt = ⟨ch, text⟩ := by
  obtain ⟨⟨ch', optarg⟩, hopt, harg⟩ := exists_of_lastWrite htext
  obtain ⟨rfl, ⟨rfl⟩⟩ := Option.ite_none_right_eq_some.mp harg
  exact ⟨_, hopt, rfl⟩

/-- The number that the last option `ch` gives, or what was there before. -/
def lastInt (ch : OptChar) (opts : List Opt) (init : UInt32) : UInt32 :=
  ((lastArg ch opts).map intArg).getD init

/-- The request holds for each option the argument given last. -/
def OptionsKept (init : Nat → UInt8) (opts : List Opt) (breq : Nat → UInt8) : Prop :=
  (bdgreqOf breq).bdgIdx = lastInt .b opts (bdgreqOf init).bdgIdx ∧
  (bdgreqOf breq).bdgPort = lastInt .p opts (bdgreqOf init).bdgPort ∧
  (bdgreqOf breq).nrDst = lastInt .d opts (bdgreqOf init).nrDst ∧
  (bdgreqOf breq).nrArg1 = (bdgreqOf init).nrArg1 ∧
  (∀ text, lastArg .m opts = some text → bytes breq 0 6 = groupBytes 16 ':' text) ∧
  (∀ text, lastArg .ip4 opts = some text → bytes breq 0 4 = groupBytes 10 '.' text)

/-- The options after the last `ch`, or all when there is none. -/
def afterLast (ch : OptChar) (opts : List Opt) : List Opt :=
  opts.rtakeWhile fun opt => opt.ch != ch

/-- No `-m` follows the last `-p`, or the low byte of the port is zero anyway. -/
def PortKept (init : Nat → UInt8) (opts : List Opt) : Prop :=
  (∀ opt ∈ afterLast .p opts, opt.ch ≠ .m) ∨
    leByte (lastInt .p opts (bdgreqOf init).bdgPort) 0 = 0

instance (init : Nat → UInt8) (opts : List Opt) : Decidable (PortKept init opts) :=
  inferInstanceAs (Decidable (_ ∨ _))

theorem leByte_lastInt (init : Nat → UInt8) (p : Nat) (ch : OptChar) (opts : List Opt) {k : Nat}
    (hk : k < 4) :
    leByte (lastInt ch opts (le32 (pointer init p))) k =
      (lastWrite (fun opt => (optArg ch opt).map fun text => leByte (intArg text) k) opts).getD
        (init (p + k)) := by
  rw [lastWrite_map, lastInt, lastArg]
  cases lastWrite (optArg ch) opts with
  | none => exact leByte_le32 (pointer init p) hk
  | some text => rfl

theorem optionWrite_word {ch : OptChar} {p k : Nat} (hk : k < 4)
    (hword : ch = .b ∧ p = 12 ∨ ch = .d ∧ p = 16 ∨ ch = .p ∧ p = 8 ∧ 0 < k) (opt : Opt) :
    optionWrite (p + k) opt = (optArg ch opt).map fun text => leByte (intArg text) k := by
  obtain ⟨ch', optarg⟩ := opt
  rcases hword with ⟨rfl, rfl⟩ | ⟨rfl, rfl⟩ | ⟨rfl, rfl, hlow⟩
  all_goals
    cases ch' <;>
      simp (disch := omega) [optionWrite, optArg, copyWrite_inside, copyWrite_outside]

/-- The option `ch` gives an address of `count` bytes. -/
def IsAddrOption (ch : OptChar) (base : Nat) (sep : Char) (count : Nat) : Prop :=
  ch = .m ∧ base = 16 ∧ sep = ':' ∧ count = 6 ∨ ch = .ip4 ∧ base = 10 ∧ sep = '.' ∧ count = 4

theorem IsAddrOption.ch_eq {ch : OptChar} {base count : Nat} {sep : Char}
    (haddr : IsAddrOption ch base sep count) : ch = .m ∨ ch = .ip4 := by
  rcases haddr with ⟨hch, _⟩ | ⟨hch, _⟩
  · exact Or.inl hch
  · exact Or.inr hch

theorem optionWrite_of_not_addr {opt : Opt} (hkind : ¬ (opt.ch = .m ∨ opt.ch = .ip4)) {k : Nat}
    (hk : k < 8) : optionWrite k opt = none := by
  obtain ⟨ch, optarg⟩ := opt
  cases ch with
  | m => exact absurd (Or.inl rfl) hkind
  | ip4 => exact absurd (Or.inr rfl) hkind
  | b => exact copyWrite_outside _ (Or.inl (by omega))
  | p => exact copyWrite_outside _ (Or.inl (by omega))
  | d => exact copyWrite_outside _ (Or.inl (by omega))
  | ip6 => rfl
  | vport => rfl
  | unknown => rfl

theorem optionWrite_addr {ch : OptChar} {base count : Nat} {sep : Char}
    (haddr : IsAddrOption ch base sep count) {opt : Opt}
    (hother : opt.ch = .m ∨ opt.ch = .ip4 → opt.ch = ch) {k : Nat} (hk : k < count) :
    optionWrite k opt =
      (optArg ch opt).map fun text => ofList (groupBytes base sep text) 0 k := by
  by_cases hkind : opt.ch = .m ∨ opt.ch = .ip4
  · obtain ⟨ch', optarg⟩ := opt
    obtain rfl : ch' = ch := hother hkind
    rw [optArg, if_pos rfl]
    rcases haddr with ⟨rfl, rfl, rfl, rfl⟩ | ⟨rfl, rfl, rfl, rfl⟩
    · exact if_pos ⟨Nat.zero_le k, by omega⟩
    · exact if_pos ⟨Nat.zero_le k, by omega⟩
  · have hne : opt.ch ≠ ch := by
      rintro rfl
      exact hkind haddr.ch_eq
    have hlt : k < 8 := by
      rcases haddr with ⟨_, _, _, rfl⟩ | ⟨_, _, _, rfl⟩ <;> omega
    rw [optionWrite_of_not_addr hkind hlt, optArg, if_neg hne]
    rfl

theorem optionWrite_lowByte {opt : Opt} (hopt : WellFormed opt) :
    optionWrite 8 opt =
      if opt.ch = .m then some 0
      else (optArg .p opt).map fun text => leByte (intArg text) 0 := by
  obtain ⟨ch, optarg⟩ := opt
  cases ch with
  | m =>
      have hlength := length_groupBytes hopt
      have hzero : ofList (groupBytes 16 ':' optarg) 0 8 = 0 :=
        List.getD_eq_default _ _ (hlength.le.trans (by decide))
      exact congrArg some hzero
  | p => rfl
  | b => rfl
  | d => rfl
  | ip4 => rfl
  | ip6 => rfl
  | vport => rfl
  | unknown => rfl

theorem lowByte_iff {opts : List Opt} (hopts : ∀ opt ∈ opts, WellFormed opt) (init : UInt8) :
    (lastWrite (optionWrite 8) opts).getD init =
        (lastWrite (fun opt => (optArg .p opt).map fun text => leByte (intArg text) 0) opts).getD
          init ↔
      (∀ opt ∈ afterLast .p opts, opt.ch ≠ .m) ∨
        (lastWrite (fun opt => (optArg .p opt).map fun text => leByte (intArg text) 0) opts).getD
          init = 0 := by
  induction opts using List.reverseRecOn with
  | nil => simp [afterLast]
  | append_singleton opts opt ih =>
      have hlast : WellFormed opt := hopts opt (List.mem_append_right opts List.mem_cons_self)
      have hbefore := ih fun opt' hopt' => hopts opt' (List.mem_append_left [opt] hopt')
      rw [lastWrite_concat, lastWrite_concat, optionWrite_lowByte hlast]
      unfold afterLast at hbefore ⊢
      by_cases hp : opt.ch = .p
      · have hm : opt.ch ≠ .m := by
          rw [hp]
          decide
        rw [List.rtakeWhile_concat_neg _ _ _ (by simp [hp]), if_neg hm]
        simp [optArg, hp]
      · have hnone : optArg .p opt = none := if_neg hp
        rw [List.rtakeWhile_concat_pos _ _ _ (by simp [hp]), hnone, Option.map_none,
          Option.none_or, List.forall_mem_append, List.forall_mem_singleton]
        by_cases hm : opt.ch = .m
        · simp [hm, eq_comm]
        · simpa [hm] using hbefore

section Fields

variable {opts : List Opt} (hopts : ∀ opt ∈ opts, WellFormed opt) (s : CtlState)

include hopts

theorem word_parseOptions {ch : OptChar} {p k : Nat} (hk : k < 4)
    (hword : ch = .b ∧ p = 12 ∨ ch = .d ∧ p = 16 ∨ ch = .p ∧ p = 8 ∧ 0 < k) :
    (parseOptions s opts).breq (p + k) =
      leByte (lastInt ch opts (le32 (pointer s.breq p))) k := by
  rw [parseOptions_apply hopts, leByte_lastInt s.breq p ch opts hk]
  exact congrArg (fun last => Option.getD last _)
    (lastWrite_congr fun opt _ => optionWrite_word hk hword opt)

theorem bdgPort_parseOptions_iff :
    (bdgreqOf (parseOptions s opts).breq).bdgPort =
        lastInt .p opts (bdgreqOf s.breq).bdgPort ↔ PortKept s.breq opts := by
  have hlow := parseOptions_apply hopts s 8
  have hbyte := leByte_lastInt s.breq 8 .p opts (show 0 < 4 by decide)
  rw [PortKept]
  change le32 (pointer _ 8) = lastInt .p opts (le32 (pointer s.breq 8)) ↔
    _ ∨ leByte (lastInt .p opts (le32 (pointer s.breq 8))) 0 = 0
  rw [hbyte, ← lowByte_iff hopts, ← hbyte, ← hlow, le32_eq_iff]
  constructor
  · intro hbytes
    exact hbytes 0 (by decide)
  · intro hzero k hk
    rcases Nat.eq_zero_or_pos k with rfl | hpos
    · exact hzero
    · exact word_parseOptions hopts s hk (Or.inr (Or.inr ⟨rfl, rfl, hpos⟩))

theorem nrArg1_parseOptions :
    (bdgreqOf (parseOptions s opts).breq).nrArg1 = (bdgreqOf s.breq).nrArg1 := by
  refine le32_eq_iff.mpr fun k hk => ?_
  have hnone : lastWrite (optionWrite (20 + k)) opts = none := by
    rw [lastWrite_eq_none_iff]
    rintro ⟨ch, optarg⟩ _
    cases ch <;> simp (disch := omega) [optionWrite, copyWrite_outside]
  change (parseOptions s opts).breq (20 + k) = _
  rw [parseOptions_apply hopts, hnone]
  exact (leByte_le32 (pointer s.breq 20) hk).symm

theorem addr_parseOptions {ch : OptChar} {base count : Nat} {sep : Char}
    (haddr : IsAddrOption ch base sep count)
    (hother : ∀ opt ∈ opts, opt.ch = .m ∨ opt.ch = .ip4 → opt.ch = ch)
    {text : List Char} (htext : lastArg ch opts = some text) :
    bytes (parseOptions s opts).breq 0 count = groupBytes base sep text := by
  have hlength : (groupBytes base sep text).length = count := by
    obtain ⟨opt, hopt, rfl⟩ := mem_of_lastArg htext
    have hwf := hopts _ hopt
    rcases haddr with ⟨rfl, rfl, rfl, rfl⟩ | ⟨rfl, rfl, rfl, rfl⟩
    · exact length_groupBytes hwf
    · exact length_groupBytes hwf
  have hlist := bytes_ofList (groupBytes base sep text) 0
  rw [hlength] at hlist
  rw [← hlist]
  refine bytes_congr fun k hk => ?_
  have hlast : lastWrite (optionWrite k) opts =
      (lastArg ch opts).map fun text => ofList (groupBytes base sep text) 0 k := by
    rw [lastArg, ← lastWrite_map]
    exact lastWrite_congr fun opt hopt => optionWrite_addr haddr (hother opt hopt) hk
  rw [Nat.zero_add, parseOptions_apply hopts, hlast, htext]
  rfl

end Fields

/-- After `parse_options` the request holds for each option the argument given last, except
that an `-m` behind the last `-p` clears the low byte of the port. -/
theorem parseOptions_kept_iff {opts : List Opt} (hopts : ∀ opt ∈ opts, WellFormed opt)
    (hone : (∀ opt ∈ opts, opt.ch ≠ .m) ∨ ∀ opt ∈ opts, opt.ch ≠ .ip4) (s : CtlState) :
    OptionsKept s.breq opts (parseOptions s opts).breq ↔ PortKept s.breq opts := by
  have hword : ∀ {ch p}, (ch = .b ∧ p = 12 ∨ ch = .d ∧ p = 16) →
      le32 (pointer (parseOptions s opts).breq p) = lastInt ch opts (le32 (pointer s.breq p)) := by
    intro ch p hfield
    refine le32_eq_iff.mpr fun k hk => word_parseOptions hopts s hk ?_
    exact hfield.imp_right Or.inl
  have hmac : ∀ text, lastArg .m opts = some text →
      bytes (parseOptions s opts).breq 0 6 = groupBytes 16 ':' text := by
    intro text htext
    obtain ⟨opt, hopt, rfl⟩ := mem_of_lastArg htext
    have hno := hone.resolve_left fun hnone => hnone _ hopt rfl
    exact addr_parseOptions hopts s (Or.inl ⟨rfl, rfl, rfl, rfl⟩)
      (fun opt hopt hkind => hkind.resolve_right (hno opt hopt)) htext
  have hip4 : ∀ text, lastArg .ip4 opts = some text →
      bytes (parseOptions s opts).breq 0 4 = groupBytes 10 '.' text := by
    intro text htext
    obtain ⟨opt, hopt, rfl⟩ := mem_of_lastArg htext
    have hno := hone.resolve_right fun hnone => hnone _ hopt rfl
    exact addr_parseOptions hopts s (Or.inr ⟨rfl, rfl, rfl, rfl⟩)
      (fun opt hopt hkind => hkind.resolve_left (hno opt hopt)) htext
  unfold OptionsKept
  rw [bdgPort_parseOptions_iff hopts s]
  constructor
  · rintro ⟨-, hport, -⟩
    exact hport
  · intro hport
    exact ⟨hword (Or.inl ⟨rfl, rfl⟩), hport, hword (Or.inr ⟨rfl, rfl⟩),
      nrArg1_parseOptions hopts s, hmac, hip4⟩

def zeroRequest : CtlState where
  breq := fun _ => 0
  bdgenv := 0
  vport := none

def macOpt : Opt where
  ch := .m
  optarg := ['0', '2', ':', '0', ':', '0', ':', '0', ':', 'A', 'b', ':', '1']

def portOpt : Opt where
  ch := .p
  optarg := ['5']

theorem parseOptions_kept_two_options :
    OptionsKept (fun _ => 0) [macOpt, portOpt]
      (parseOptions zeroRequest [macOpt, portOpt]).breq :=
  (parseOptions_kept_iff (by decide) (by decide) zeroRequest).mpr (by decide)

/-- With the options the other way round the port is lost. -/
theorem parseOptions_kept_fails :
    ¬ OptionsKept (fun _ => 0) [portOpt, macOpt]
        (parseOptions zeroRequest [portOpt, macOpt]).breq ∧
      (bdgreqOf (parseOptions zeroRequest [portOpt, macOpt]).breq).bdgPort = 0 ∧
      lastInt .p [portOpt, macOpt] 0 = 5 := by
  have hport : (bdgreqOf (parseOptions zeroRequest [portOpt, macOpt]).breq).bdgPort = 0 := by
    decide
  refine ⟨fun hkept => ?_, hport, by decide⟩
  have hsame := hkept.2.1
  rw [hport] at hsame
  exact absurd hsame (by decide)

end XenNet.ParseOptions
