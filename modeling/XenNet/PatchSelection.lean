import XenNet.AwkComparison
import XenNet.FixedNumeral
import Mathlib.Data.List.Basic
import Mathlib.Data.List.Pairwise

namespace XenNet.PatchSelection

open XenNet.FormattedScan
open XenNet.AwkComparison
open XenNet.FixedNumeral

/-- The files in `LINUX/patches`. -/
def patchDir : List String :=
  ["0001-ixgbe-driver-support-for-XEN_PV-IOMMU-cases.patch",
    "0002-Expose-bridge-txsync-rxsync-functions.patch",
    "diff--xen-netback--30600--30b00",
    "diff--xen-netback--30b00--30c00",
    "diff--xen-netback--30c00--30d00",
    "diff--xen-netback--30d00--30e00",
    "diff--xen-netback--30e00--30f00",
    "diff--xen-netback--30f00--99999",
    "diff--xen-netfront--30600--30e00",
    "diff--xen-netfront--30e00--99999"]

/-- What `ls diff--*` prints. -/
def lsDiff : List (List Char) :=
  (patchDir.map String.toList).filter fun name => "diff--".toList.isPrefixOf name

/-- `LINUX_VERSION_CODE` of the kernel `a.b.c`. -/
def linuxVersionCode (a b c : Nat) : Nat :=
  a * 65536 + b * 256 + c

/-- `%0wx`. -/
def printHex (w n : Nat) : List Char :=
  (Nat.toDigits 16 n).leftpad w '0'

/-- `LIN_VER`. -/
def linVer (code : Nat) : List Char :=
  printHex 3 (code / 256) ++ printHex 2 (code % 256)

/-- The fields of a name, for `-F --`. -/
def record (name : List Char) : List (List Char) :=
  fields "--".toList name

/-- The condition of the awk program. -/
def awkPrints (v : List Char) (r : List (List Char)) : Bool :=
  (!truth (field r 3) || lessEq (field r 3) v) && (!truth (field r 4) || less v (field r 4))

/-- `PATCHES`. -/
def patches (v : List Char) : List (List Char) :=
  lsDiff.filter fun name => awkPrints v (record name)

def ofDriver (driver name : List Char) : Bool :=
  field (record name) 2 == driver

/-- The range of versions that a patch is for. -/
def range (r : List (List Char)) : Nat × Nat :=
  (ofDigits 16 (field r 3), ofDigits 16 (field r 4))

def InRange (code : Nat) (r : List (List Char)) : Prop :=
  (range r).1 ≤ code ∧ code < (range r).2

def drivers : List (List Char) :=
  ["xen-netback".toList, "xen-netfront".toList]

/-- Of every driver one patch is chosen, the one whose range has the version. -/
def OnePatchEach (code : Nat) : Prop :=
  ∀ driver ∈ drivers, ∃ name,
    (patches (linVer code)).filter (ofDriver driver) = [name] ∧ InRange code (record name)

example : patches "30c01".toList =
    ["diff--xen-netback--30c00--30d00".toList, "diff--xen-netfront--30600--30e00".toList] := by
  decide +kernel

/-- The text of a version of five digits. -/
def hexText (code : Nat) : List Char :=
  fixed Nat.digitChar 16 5 code

theorem digitChar_strictMonoOn : StrictMonoOn Nat.digitChar (Set.Iio 16) := by
  have hall : ∀ i, i < 16 → ∀ j, j < 16 → i < j → Nat.digitChar i < Nat.digitChar j := by
    decide
  intro i hi j hj hij
  exact hall i hi j hj hij

theorem digitValue_digitChar {d : Nat} (hd : d < 16) :
    digitValue (Nat.digitChar d) = some d := by
  have hall : ∀ d, d < 16 → digitValue (Nat.digitChar d) = some d := by
    decide
  exact hall d hd

theorem ofDigits_fixed {w n : Nat} (hn : n < 16 ^ w) :
    ofDigits 16 (fixed Nat.digitChar 16 w n) = n := by
  induction w generalizing n with
  | zero =>
      rw [Nat.pow_zero, Nat.lt_one_iff] at hn
      exact hn.symm
  | succ w ih =>
      have hrest : n / 16 < 16 ^ w := Nat.div_lt_of_lt_mul (Nat.pow_succ' ▸ hn)
      have hlast : digitValue (Nat.digitChar (n % 16)) = some (n % 16) :=
        digitValue_digitChar (Nat.mod_lt n (by decide))
      have happend : ofDigits 16 (fixed Nat.digitChar 16 (w + 1) n) =
          16 * ofDigits 16 (fixed Nat.digitChar 16 w (n / 16)) +
            (digitValue (Nat.digitChar (n % 16))).getD 0 := by
        rw [fixed, ofDigits, List.foldl_append]
        rfl
      rw [happend, ih hrest, hlast, Option.getD_some]
      omega

theorem isPlain_hexText (code : Nat) : IsPlain (hexText code) := by
  have hall : ∀ d, d < 16 → isDigit 16 (Nat.digitChar d) = true := by
    decide
  intro c hc
  obtain ⟨d, hd, rfl⟩ := mem_fixed (by decide) hc
  exact hall d hd

section Versions

variable {code : Nat}

theorem linVer_eq (hcode : code < 16 ^ 5) : linVer code = hexText code := by
  have hhigh : code / 256 < 16 ^ 3 := by omega
  have hlow : code % 256 < 16 ^ 2 := by omega
  unfold linVer printHex hexText
  rw [leftpad_toDigits (by decide) (by decide) hhigh,
    leftpad_toDigits (by decide) (by decide) hlow]
  exact (congrArg (_ ++ ·) (fixed_mod 2 code)).trans (fixed_add 3 2 code).symm

theorem hexText_lt_iff (hcode : code < 16 ^ 5) {K : Nat} (hK : K < 16 ^ 5) :
    hexText code < hexText K ↔ code < K :=
  fixed_lt_fixed_iff digitChar_strictMonoOn hcode hK

theorem less_of_text (hcode : code < 16 ^ 5) {K : Nat} (hK : K < 16 ^ 5)
    (htext : number (hexText code) = none ∨ number (hexText K) = none) :
    less (hexText code) (hexText K) = true ↔ code < K := by
  unfold less
  rcases htext with htext | htext
  · rw [htext]
    simp only [decide_eq_true_eq]
    exact hexText_lt_iff hcode hK
  · rw [htext]
    split
    · contradiction
    · rw [decide_eq_true_eq]
      exact hexText_lt_iff hcode hK

theorem less_of_number {q r : ℚ} {K : Nat} (hq : number (hexText code) = some q)
    (hr : number (hexText K) = some r) :
    less (hexText code) (hexText K) = true ↔ q < r := by
  rw [less, hq, hr, decide_eq_true_eq]

end Versions

section Lists

variable {α : Type*} {l : List α} {sel : α → Bool} {right : α → Prop}

theorem eq_of_right (hapart : l.Pairwise fun x y => ¬ (right x ∧ right y)) {x y : α} (hx : x ∈ l)
    (hy : y ∈ l) (hright : right x ∧ right y) : x = y := by
  have hsymm : Std.Symm fun x y => ¬ (right x ∧ right y) :=
    ⟨fun _ _ hnot hboth => hnot hboth.symm⟩
  by_contra hne
  exact hapart.forall hx hy hne hright

theorem exists_filter_eq (hexists : ∃ x ∈ l, right x)
    (hapart : l.Pairwise fun x y => ¬ (right x ∧ right y))
    (hsel : ∀ x ∈ l, sel x = true ↔ right x) : ∃ x, l.filter sel = [x] ∧ right x := by
  induction l with
  | nil =>
      obtain ⟨x, hx, _⟩ := hexists
      contradiction
  | cons a l ih =>
      rw [List.pairwise_cons] at hapart
      rw [List.forall_mem_cons] at hsel
      rw [List.exists_mem_cons_iff] at hexists
      rcases Decidable.em (sel a = true) with htake | hskip
      · have hright : right a := hsel.1.mp htake
        have hnone : l.filter sel = [] := by
          rw [List.filter_eq_nil_iff]
          exact fun x hx htrue => hapart.1 x hx ⟨hright, (hsel.2 x hx).mp htrue⟩
        exact ⟨a, by rw [List.filter_cons_of_pos htake, hnone], hright⟩
      · have hrest := hexists.resolve_left fun hright => hskip (hsel.1.mpr hright)
        rw [List.filter_cons_of_neg hskip]
        exact ih hrest hapart.2 hsel.2

theorem filter_eq_right_iff (hexists : ∃ x ∈ l, right x)
    (hapart : l.Pairwise fun x y => ¬ (right x ∧ right y)) :
    (∃ x, l.filter sel = [x] ∧ right x) ↔ ∀ x ∈ l, sel x = true ↔ right x := by
  refine ⟨?_, exists_filter_eq hexists hapart⟩
  rintro ⟨x, hfilter, hx⟩ y hy
  have hmem : ∀ z, z ∈ l ∧ sel z = true ↔ z = x := by
    intro z
    rw [← List.mem_filter, hfilter, List.mem_singleton]
  constructor
  · intro hsel
    rw [(hmem y).mp ⟨hy, hsel⟩]
    exact hx
  · intro hright
    have hsame : y = x := eq_of_right hapart hy ((hmem x).mpr rfl).1 ⟨hright, hx⟩
    exact ((hmem y).mpr hsame).2

end Lists

/-- The fields of the name of a patch. -/
def patchRecord (driver : List Char) (range : Nat × Nat) : List (List Char) :=
  ["diff".toList, driver, hexText range.1, hexText range.2]

theorem ofDigits_hexText {code : Nat} (hcode : code < 16 ^ 5) :
    ofDigits 16 (hexText code) = code :=
  ofDigits_fixed hcode

theorem inRange_patchRecord {code : Nat} {driver : List Char} {r : Nat × Nat}
    (hr : r.1 < 16 ^ 5 ∧ r.2 < 16 ^ 5) :
    InRange code (patchRecord driver r) ↔ r.1 ≤ code ∧ code < r.2 := by
  have hrange : range (patchRecord driver r) = r :=
    Prod.ext (ofDigits_hexText hr.1) (ofDigits_hexText hr.2)
  rw [InRange, hrange]

theorem awkPrints_patchRecord {v driver : List Char} {r : Nat × Nat}
    (hr : truth (hexText r.1) = true ∧ truth (hexText r.2) = true) :
    awkPrints v (patchRecord driver r) = true ↔
      ¬ less v (hexText r.1) = true ∧ less v (hexText r.2) = true := by
  change ((!truth (hexText r.1) || !less v (hexText r.1)) &&
    (!truth (hexText r.2) || less v (hexText r.2))) = true ↔ _
  simp [hr.1, hr.2]

def netbackRanges : List (Nat × Nat) :=
  [(0x30600, 0x30b00), (0x30b00, 0x30c00), (0x30c00, 0x30d00), (0x30d00, 0x30e00),
    (0x30e00, 0x30f00), (0x30f00, 0x99999)]

def netfrontRanges : List (Nat × Nat) :=
  [(0x30600, 0x30e00), (0x30e00, 0x99999)]

theorem netback_records :
    (lsDiff.filter (ofDriver "xen-netback".toList)).map record =
      netbackRanges.map (patchRecord "xen-netback".toList) := by
  decide +kernel

theorem netfront_records :
    (lsDiff.filter (ofDriver "xen-netfront".toList)).map record =
      netfrontRanges.map (patchRecord "xen-netfront".toList) := by
  decide +kernel

section Choice

variable {code : Nat} {driver v : List Char} {ranges : List (Nat × Nat)}

theorem forall_record_iff {P : List (List Char) → Prop}
    (hrecords : (lsDiff.filter (ofDriver driver)).map record = ranges.map (patchRecord driver)) :
    (∀ name ∈ lsDiff.filter (ofDriver driver), P (record name)) ↔
      ∀ r ∈ ranges, P (patchRecord driver r) := by
  rw [← List.forall_mem_map (P := P), hrecords, List.forall_mem_map]

theorem choice_iff
    (hrecords : (lsDiff.filter (ofDriver driver)).map record = ranges.map (patchRecord driver))
    (hsmall : ∀ r ∈ ranges, r.1 < 16 ^ 5 ∧ r.2 < 16 ^ 5)
    (hexists : ∃ r ∈ ranges, r.1 ≤ code ∧ code < r.2)
    (hapart : ranges.Pairwise fun r r' => r.2 ≤ r'.1) :
    (∃ name, (patches v).filter (ofDriver driver) = [name] ∧ InRange code (record name)) ↔
      ∀ r ∈ ranges, awkPrints v (patchRecord driver r) = true ↔ r.1 ≤ code ∧ code < r.2 := by
  have hfilter : (patches v).filter (ofDriver driver) =
      (lsDiff.filter (ofDriver driver)).filter fun name => awkPrints v (record name) := by
    unfold patches
    rw [List.filter_filter, List.filter_filter]
    exact List.filter_congr fun name _ => Bool.and_comm _ _
  have hone : ∃ name ∈ lsDiff.filter (ofDriver driver), InRange code (record name) := by
    obtain ⟨r, hr, hin⟩ := hexists
    have hmem : patchRecord driver r ∈ (lsDiff.filter (ofDriver driver)).map record :=
      hrecords ▸ List.mem_map_of_mem hr
    obtain ⟨name, hname, hrecord⟩ := List.mem_map.mp hmem
    exact ⟨name, hname, hrecord ▸ (inRange_patchRecord (hsmall r hr)).mpr hin⟩
  have hdisjoint : (lsDiff.filter (ofDriver driver)).Pairwise fun x y =>
      ¬ (InRange code (record x) ∧ InRange code (record y)) := by
    rw [← List.pairwise_map (f := record) (R := fun r r' => ¬ (InRange code r ∧ InRange code r')),
      hrecords, List.pairwise_map]
    refine hapart.imp_of_mem fun hr hr' hle hboth => ?_
    have hin := (inRange_patchRecord (hsmall _ hr)).mp hboth.1
    have hin' := (inRange_patchRecord (hsmall _ hr')).mp hboth.2
    omega
  rw [hfilter, filter_eq_right_iff hone hdisjoint,
    forall_record_iff (P := fun r => awkPrints v r = true ↔ InRange code r) hrecords]
  refine forall₂_congr fun r hr => ?_
  rw [inRange_patchRecord (hsmall r hr)]

end Choice

theorem truth_edges : ∀ r ∈ netbackRanges ++ netfrontRanges,
    truth (hexText r.1) = true ∧ truth (hexText r.2) = true := by
  decide +kernel

theorem number_edges :
    number (hexText 0x30600) = some 30600 ∧ number (hexText 0x30e00) = some 30 ∧
      number (hexText 0x99999) = some 99999 ∧ number (hexText 0x30b00) = none ∧
      number (hexText 0x30c00) = none ∧ number (hexText 0x30d00) = none ∧
      number (hexText 0x30f00) = none := by
  decide +kernel

theorem le_number {code : Nat} (hlow : 0x30600 ≤ code) (hhigh : code < 0x30e00) {q : ℚ}
    (hq : number (hexText code) = some q) : 30 ≤ q := by
  obtain ⟨k, rfl⟩ := number_plain_eq_some (isPlain_hexText code) hq
  have hhead : hexText code = ['3', '0'] ++ fixed Nat.digitChar 16 3 code := by
    have hdiv : code / 16 ^ 3 = 0x30 := by omega
    unfold hexText
    rw [fixed_add 2 3, hdiv]
    rfl
  have hthirty : ∀ c ∈ ['3', '0'], isDigit 10 c = true :=
    List.forall_mem_cons.mpr ⟨by decide, List.forall_mem_singleton.mpr (by decide)⟩
  have hdigits : ofDigits 10 ['3', '0'] ≤
      ofDigits 10 ((hexText code).takeWhile (isDigit 10)) := by
    rw [hhead, List.takeWhile_append_of_pos hthirty]
    exact ofDigits_le_append _ _
  have hpow : 30 * 1 ≤ ofDigits 10 ((hexText code).takeWhile (isDigit 10)) * 10 ^ k :=
    Nat.mul_le_mul hdigits (Nat.one_le_pow k 10 (by decide))
  exact_mod_cast hpow

section Kernels

variable {code : Nat}

/-- Awk takes the patches whose ranges have the version, and no other ones. -/
def TakesInRange (code : Nat) (driver : List Char) (ranges : List (Nat × Nat)) : Prop :=
  ∀ r ∈ ranges,
    awkPrints (hexText code) (patchRecord driver r) = true ↔ r.1 ≤ code ∧ code < r.2

theorem onePatchEach_iff_takes (hlow : 0x30600 ≤ code) (hhigh : code < 0x99999) :
    OnePatchEach code ↔ TakesInRange code "xen-netback".toList netbackRanges ∧
      TakesInRange code "xen-netfront".toList netfrontRanges := by
  have hcode : code < 16 ^ 5 := by omega
  have hback : ∃ r ∈ netbackRanges, r.1 ≤ code ∧ code < r.2 := by
    simp only [netbackRanges, List.exists_mem_cons_iff, List.not_mem_nil, false_and, exists_false]
    omega
  have hfront : ∃ r ∈ netfrontRanges, r.1 ≤ code ∧ code < r.2 := by
    simp only [netfrontRanges, List.exists_mem_cons_iff, List.not_mem_nil, false_and, exists_false]
    omega
  unfold OnePatchEach drivers
  rw [linVer_eq hcode, List.forall_mem_cons, List.forall_mem_singleton,
    choice_iff netback_records (by decide) hback (by decide),
    choice_iff netfront_records (by decide) hfront (by decide)]
  rfl

theorem takesInRange_of_text (hcode : code < 16 ^ 5) (htext : number (hexText code) = none)
    {driver : List Char} {ranges : List (Nat × Nat)}
    (hranges : ∀ r ∈ ranges, r ∈ netbackRanges ++ netfrontRanges) :
    TakesInRange code driver ranges := by
  have hsmall : ∀ r ∈ netbackRanges ++ netfrontRanges, r.1 < 16 ^ 5 ∧ r.2 < 16 ^ 5 := by
    decide
  intro r hr
  have hmem := hranges r hr
  rw [awkPrints_patchRecord (truth_edges r hmem),
    less_of_text hcode (hsmall r hmem).1 (Or.inl htext),
    less_of_text hcode (hsmall r hmem).2 (Or.inl htext), not_lt]

theorem takesInRange_of_number (hcode : 0x30e00 ≤ code) (hhigh : code < 0x99999) {q : ℚ}
    (hq : number (hexText code) = some q) (hle : 30 ≤ q) (hlt : q < 99999) :
    TakesInRange code "xen-netback".toList netbackRanges ∧
      TakesInRange code "xen-netfront".toList netfrontRanges := by
  have hsmall : code < 16 ^ 5 := by omega
  obtain ⟨h306, h30e, h999, h30b, h30c, h30d, h30f⟩ := number_edges
  have hnot : ¬ q < 30 := not_lt.mpr hle
  constructor
  · intro r hr
    rw [awkPrints_patchRecord (truth_edges r (List.mem_append_left _ hr))]
    simp only [netbackRanges, List.mem_cons, List.not_mem_nil, or_false] at hr
    rcases hr with rfl | rfl | rfl | rfl | rfl | rfl
    · rw [less_of_text hsmall (by decide) (Or.inr h30b)]
      exact iff_of_false (fun h => by omega) (fun h => by omega)
    · rw [less_of_text hsmall (by decide) (Or.inr h30b),
        less_of_text hsmall (by decide) (Or.inr h30c), not_lt]
    · rw [less_of_text hsmall (by decide) (Or.inr h30c),
        less_of_text hsmall (by decide) (Or.inr h30d), not_lt]
    · rw [less_of_number hq h30e]
      exact iff_of_false (fun h => hnot h.2) (fun h => by omega)
    · rw [less_of_number hq h30e, less_of_text hsmall (by decide) (Or.inr h30f)]
      exact and_congr_left fun _ => iff_of_true hnot hcode
    · rw [less_of_text hsmall (by decide) (Or.inr h30f), less_of_number hq h999, not_lt]
      exact and_congr_right fun _ => iff_of_true hlt hhigh
  · intro r hr
    rw [awkPrints_patchRecord (truth_edges r (List.mem_append_right _ hr))]
    simp only [netfrontRanges, List.mem_cons, List.not_mem_nil, or_false] at hr
    rcases hr with rfl | rfl
    · rw [less_of_number hq h30e]
      exact iff_of_false (fun h => hnot h.2) (fun h => by omega)
    · rw [less_of_number hq h30e, less_of_number hq h999]
      exact iff_of_true ⟨hnot, hlt⟩ ⟨hcode, hhigh⟩

/-- Before 3.14 a version that reads as a number gets the patch for 3.14 as well, and from
there on the patch for 3.14 is missing unless the number is between the edges. -/
theorem of_takesInRange (hlow : 0x30600 ≤ code) (hhigh : code < 0x99999) {q : ℚ}
    (hq : number (hexText code) = some q)
    (hback : TakesInRange code "xen-netback".toList netbackRanges)
    (hfront : TakesInRange code "xen-netfront".toList netfrontRanges) :
    0x30e00 ≤ code ∧ 30 ≤ q ∧ q < 99999 := by
  have hsmall : code < 16 ^ 5 := by omega
  obtain ⟨_, h30e, h999, _, _, _, h30f⟩ := number_edges
  have hlate : 0x30e00 ≤ code := by
    by_contra hearly
    have hle := le_number hlow (by omega) hq
    have htakes := hback (0x30e00, 0x30f00) (by decide)
    rw [awkPrints_patchRecord (truth_edges _ (by decide)), less_of_number hq h30e,
      less_of_text hsmall (by decide) (Or.inr h30f)] at htakes
    exact hearly (htakes.mp ⟨not_lt.mpr hle, by omega⟩).1
  have htakes := hfront (0x30e00, 0x99999) (by decide)
  rw [awkPrints_patchRecord (truth_edges _ (by decide)), less_of_number hq h30e,
    less_of_number hq h999] at htakes
  obtain ⟨hnot, hlt⟩ := htakes.mpr ⟨hlate, hhigh⟩
  exact ⟨hlate, not_lt.mp hnot, hlt⟩

end Kernels

/-- A kernel from 3.6 on gets its patches exactly if its version does not read as a number, or
is 3.14 at least and reads as a number between 30, which is how awk reads `30e00`, and
99999. -/
theorem onePatchEach_iff {a b c : Nat} (hb : b < 256) (hc : c < 256)
    (hmin : 3 < a ∨ a = 3 ∧ 6 ≤ b) (hmax : linuxVersionCode a b c < 0x99999) :
    OnePatchEach (linuxVersionCode a b c) ↔
      number (linVer (linuxVersionCode a b c)) = none ∨
        0x30e00 ≤ linuxVersionCode a b c ∧
          ∃ q, number (linVer (linuxVersionCode a b c)) = some q ∧ 30 ≤ q ∧ q < 99999 := by
  have hlow : 0x30600 ≤ linuxVersionCode a b c := by
    unfold linuxVersionCode
    omega
  generalize linuxVersionCode a b c = code at hlow hmax ⊢
  have hsmall : code < 16 ^ 5 := by omega
  rw [onePatchEach_iff_takes hlow hmax, linVer_eq hsmall]
  cases hq : number (hexText code) with
  | none =>
      refine iff_of_true ⟨?_, ?_⟩ (Or.inl rfl)
      · exact takesInRange_of_text hsmall hq fun r hr => List.mem_append_left _ hr
      · exact takesInRange_of_text hsmall hq fun r hr => List.mem_append_right _ hr
  | some q =>
      constructor
      · rintro ⟨hback, hfront⟩
        obtain ⟨hlate, hle, hlt⟩ := of_takesInRange hlow hmax hq hback hfront
        exact Or.inr ⟨hlate, q, rfl, hle, hlt⟩
      · rintro (hnone | ⟨hlate, q', hq', hle, hlt⟩)
        · contradiction
        · obtain rfl := Option.some.inj hq'
          exact takesInRange_of_number hlate hmax hq hle hlt

theorem onePatchEach_iff_early_e : OnePatchEach (linuxVersionCode 3 14 2) :=
  (onePatchEach_iff (show 14 < 256 by decide) (show 2 < 256 by decide)
    (show 3 < 3 ∨ 3 = 3 ∧ 6 ≤ 14 by decide) (by decide)).mpr
    (Or.inr ⟨by decide, 3000, by decide +kernel, by decide +kernel, by decide +kernel⟩)

/-- The version 3.8.0 gets two patches for the backend and the wrong one for the frontend, and
3.14.4 none for the frontend. -/
theorem onePatchEach_fails :
    patches (linVer (linuxVersionCode 3 8 0)) =
        ["diff--xen-netback--30600--30b00".toList, "diff--xen-netback--30e00--30f00".toList,
          "diff--xen-netfront--30e00--99999".toList] ∧
      patches (linVer (linuxVersionCode 3 14 4)) =
        ["diff--xen-netback--30e00--30f00".toList] ∧
      ¬ ∀ a b c, b < 256 → c < 256 → 3 < a ∨ a = 3 ∧ 6 ≤ b →
        linuxVersionCode a b c < 0x99999 → OnePatchEach (linuxVersionCode a b c) := by
  have hmissing : patches (linVer (linuxVersionCode 3 14 4)) =
      ["diff--xen-netback--30e00--30f00".toList] := by
    decide +kernel
  refine ⟨by decide +kernel, hmissing, fun halways => ?_⟩
  obtain ⟨name, hname, _⟩ := halways 3 14 4 (by decide) (by decide) (by decide) (by decide)
    "xen-netfront".toList (by decide)
  have hnone : ["diff--xen-netback--30e00--30f00".toList].filter
      (ofDriver "xen-netfront".toList) = [] := by
    decide
  rw [hmissing, hnone] at hname
  contradiction

end XenNet.PatchSelection
