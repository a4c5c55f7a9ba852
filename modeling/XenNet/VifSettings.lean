import XenNet.NetbackXenbus
import XenNet.FixedNumeral

namespace XenNet.VifSettings

open XenNet.FixedNumeral
open XenNet.FormattedScan
open XenNet.KernelScan
open XenNet.NetbackXenbus

/-- What `simple_strtoul` takes of a text: digits, with a `0x` in front if they are hexadecimal.
After a `0x` there may be no digit. -/
def IsField (base : Nat) (text : List Char) : Prop :=
  text ≠ [] ∧ ∀ c ∈ dropPrefix base text, isDigit base c = true

instance (base : Nat) (text : List Char) : Decidable (IsField base text) :=
  have : Decidable (∀ c ∈ dropPrefix base text, isDigit base c = true) := List.decidableBAll _ _
  inferInstanceAs (Decidable (text ≠ [] ∧ ∀ c ∈ dropPrefix base text, isDigit base c = true))

def fieldValue (base : Nat) (text : List Char) : UInt64 :=
  UInt64.ofNat (ofDigits base (dropPrefix base text))

section Field

variable {base : Nat} {field rest text : List Char}

theorem dropPrefix_cases (base : Nat) (text : List Char) :
    dropPrefix base text = text ∨
    ∃ x, (x = 'x' ∨ x = 'X') ∧ base = 16 ∧ text = '0' :: x :: dropPrefix base text := by
  unfold dropPrefix
  split
  · rename_i x rest
    split
    · rename_i hprefix
      exact Or.inr ⟨x, hprefix.2, hprefix.1, rfl⟩
    · exact Or.inl rfl
  · exact Or.inl rfl

theorem dropPrefix_of_digits (hdigits : ∀ c ∈ text, isDigit base c = true) :
    dropPrefix base text = text := by
  refine dropPrefix_of_ne fun c hc => ?_
  have hdigit := hdigits c (List.mem_of_mem_tail (List.mem_of_mem_head? hc))
  exact ⟨ne_of_isDigit hdigit (by decide), ne_of_isDigit hdigit (by decide)⟩

theorem exists_field (hbase : base ≠ 0) (text : List Char) :
    ∃ field, text = field ++ (simpleStrtoul base text).2 ∧
      (field ≠ [] → IsField base field ∧ (simpleStrtoul base text).1 = fieldValue base field) := by
  rw [simpleStrtoul, fixupRadix_of_ne_zero hbase]
  dsimp only
  have hsplit : dropPrefix base text =
      (dropPrefix base text).takeWhile (isDigit base) ++
        (dropPrefix base text).dropWhile (isDigit base) := List.takeWhile_append_dropWhile.symm
  have hdigits : ∀ c ∈ (dropPrefix base text).takeWhile (isDigit base), isDigit base c = true :=
    fun c hc => List.mem_takeWhile_imp hc
  generalize (dropPrefix base text).takeWhile (isDigit base) = digits at hsplit hdigits ⊢
  generalize (dropPrefix base text).dropWhile (isDigit base) = rest at hsplit ⊢
  rcases dropPrefix_cases base text with hnone | ⟨x, hx, hhex, htext⟩
  · have hdrop := dropPrefix_of_digits hdigits
    refine ⟨digits, hnone.symm.trans hsplit, fun hne => ⟨⟨hne, ?_⟩, ?_⟩⟩
    · rw [hdrop]
      exact hdigits
    · rw [fieldValue, hdrop]
  · have hdrop : dropPrefix base ('0' :: x :: digits) = digits := if_pos ⟨hhex, hx⟩
    refine ⟨'0' :: x :: digits, ?_, fun hne => ⟨⟨hne, ?_⟩, ?_⟩⟩
    · rw [htext, hsplit]
      rfl
    · rw [hdrop]
      exact hdigits
    · rw [fieldValue, hdrop]

theorem takeWhile_of_ends (hends : Ends base rest) : rest.takeWhile (isDigit base) = [] := by
  cases rest with
  | nil => rfl
  | cons c rest => exact List.takeWhile_cons_of_neg (by simp [(hends c rfl).1])

theorem dropWhile_of_ends (hends : Ends base rest) : rest.dropWhile (isDigit base) = rest := by
  cases rest with
  | nil => rfl
  | cons c rest => exact List.dropWhile_cons_of_neg (by simp [(hends c rfl).1])

theorem simpleStrtoul_field (hbase : base ≠ 0) (hfield : IsField base field)
    (hends : Ends base rest) :
    simpleStrtoul base (field ++ rest) = (fieldValue base field, rest) := by
  obtain ⟨hne, hdigits⟩ := hfield
  rcases dropPrefix_cases base field with hnone | ⟨x, hx, hhex, htext⟩
  · rw [hnone] at hdigits
    rw [simpleStrtoul_append hbase ⟨hne, hdigits⟩ hends, fieldValue, hnone]
  · have hdrop : dropPrefix base (field ++ rest) = dropPrefix base field ++ rest := by
      conv_lhs => rw [htext]
      exact if_pos ⟨hhex, hx⟩
    rw [simpleStrtoul, fixupRadix_of_ne_zero hbase]
    dsimp only
    rw [hdrop, List.takeWhile_append_of_pos hdigits, List.dropWhile_append_of_pos hdigits,
      takeWhile_of_ends hends, dropWhile_of_ends hends, List.append_nil]
    rfl

end Field

def macByte (field : List Char) : UInt8 :=
  (fieldValue 16 field).toUInt8

def colon : List Char := [':']

theorem ends_colon (text : List Char) : Ends 16 (':' :: text) := by
  intro c hc
  obtain rfl : ':' = c := Option.some.inj hc
  decide

theorem ends_nil (base : Nat) : Ends base [] := fun c hc => by contradiction

/-- What the loop wants behind the field of byte `i`. -/
def separator (i : Nat) : Option Char :=
  if i = ethAlen - 1 then none else some ':'

section Mac

variable {mac : List UInt8} {i left : Nat}

theorem readMacLoop_succ (mac : List UInt8) (i : Nat) (s : List Char) (left : Nat) :
    readMacLoop mac i s (left + 1) =
      if (simpleStrtoul 16 s).2.length = s.length ∨
          (simpleStrtoul 16 s).2.head? ≠ separator i then
        (some enoent, mac.set i (simpleStrtoul 16 s).1.toUInt8)
      else
        readMacLoop (mac.set i (simpleStrtoul 16 s).1.toUInt8) (i + 1)
          ((simpleStrtoul 16 s).2.drop 1) left := rfl

theorem readMacLoop_field (mac : List UInt8) (i left : Nat) {field rest : List Char}
    (hfield : IsField 16 field) (hends : Ends 16 rest) (hsep : rest.head? = separator i) :
    readMacLoop mac i (field ++ rest) (left + 1) =
      readMacLoop (mac.set i (macByte field)) (i + 1) (rest.drop 1) left := by
  have hread := simpleStrtoul_field (by decide) hfield hends
  have hlength : rest.length ≠ (field ++ rest).length := by
    have hpos := List.length_pos_of_ne_nil hfield.1
    rw [List.length_append]
    omega
  rw [readMacLoop_succ, hread, if_neg (not_or.mpr ⟨hlength, not_not.mpr hsep⟩), macByte]

theorem take_set_succ (hi : i < mac.length) (byte : UInt8) :
    (mac.set i byte).take (i + 1) = mac.take i ++ [byte] := by
  rw [List.take_add_one, List.take_set_of_le (Nat.le_refl i), List.getElem?_set_self hi]
  rfl

theorem readMacLoop_fields {fields : List (List Char)} (hfields : ∀ f ∈ fields, IsField 16 f)
    (hlength : fields.length = left + 1) (hleft : i + left + 1 = ethAlen)
    (hmac : mac.length = ethAlen) :
    readMacLoop mac i (List.intercalate colon fields) (left + 1) =
      (none, mac.take i ++ fields.map macByte) := by
  induction left generalizing mac i fields with
  | zero =>
      obtain ⟨field, rfl⟩ := List.length_eq_one_iff.mp hlength
      have hfield := hfields field List.mem_cons_self
      have hsep : ([] : List Char).head? = separator i := (if_pos (by omega)).symm
      have hround := readMacLoop_field mac i 0 hfield (ends_nil 16) hsep
      rw [List.append_nil] at hround
      rw [List.intercalate_singleton, hround, readMacLoop]
      have htake : (mac.set i (macByte field)).take (i + 1) = mac.take i ++ [macByte field] :=
        take_set_succ (by omega) (macByte field)
      have hall : (mac.set i (macByte field)).take (i + 1) = mac.set i (macByte field) :=
        List.take_of_length_le (by rw [List.length_set]; omega)
      rw [← hall, htake]
      rfl
  | succ left ih =>
      match fields, hlength with
      | field :: next :: fields, hlength =>
          have hfield := hfields field List.mem_cons_self
          have hsep : (':' :: List.intercalate colon (next :: fields)).head? = separator i :=
            (if_neg (by omega)).symm
          have hround := readMacLoop_field mac i (left + 1) hfield
            (ends_colon (List.intercalate colon (next :: fields))) hsep
          have htext : List.intercalate colon (field :: next :: fields) =
              field ++ ':' :: List.intercalate colon (next :: fields) := by
            rw [List.intercalate_cons_cons, List.append_assoc]
            rfl
          have hrest : readMacLoop (mac.set i (macByte field)) (i + 1)
              (List.intercalate colon (next :: fields)) (left + 1) =
              (none, (mac.set i (macByte field)).take (i + 1) ++ (next :: fields).map macByte) :=
            ih (fun f hf => hfields f (List.mem_cons_of_mem _ hf)) (Nat.succ.inj hlength)
              (by omega) (by rw [List.length_set]; exact hmac)
          rw [htext, hround, List.drop_one, List.tail_cons, hrest,
            take_set_succ (by omega) (macByte field), List.append_assoc]
          rfl

theorem exists_field_of_round {s : List Char}
    (hread : (readMacLoop mac i s (left + 1)).1 = none) :
    ∃ field rest mac', IsField 16 field ∧ s = field ++ rest ∧ rest.head? = separator i ∧
      (readMacLoop mac' (i + 1) (rest.drop 1) left).1 = none := by
  obtain ⟨field, hsplit, hfield⟩ := exists_field (show (16 : Nat) ≠ 0 by decide) s
  rw [readMacLoop_succ] at hread
  split at hread
  · contradiction
  · rename_i hgo
    obtain ⟨hlength, hsep⟩ := not_or.mp hgo
    have hne : field ≠ [] := by
      rintro rfl
      exact hlength (congrArg List.length hsplit).symm
    exact ⟨field, _, _, (hfield hne).1, hsplit, not_not.mp hsep, hread⟩

/-- Only such texts are taken. -/
theorem exists_fields {s : List Char} (hleft : i + left + 1 = ethAlen)
    (hread : (readMacLoop mac i s (left + 1)).1 = none) :
    ∃ fields, fields.length = left + 1 ∧ (∀ f ∈ fields, IsField 16 f) ∧
      s = List.intercalate colon fields := by
  induction left generalizing mac i s with
  | zero =>
      obtain ⟨field, rest, -, hfield, hsplit, hsep, -⟩ := exists_field_of_round hread
      have hempty : rest = [] := by
        rw [separator, if_pos (by omega)] at hsep
        exact List.head?_eq_none_iff.mp hsep
      refine ⟨[field], rfl, List.forall_mem_singleton.mpr hfield, ?_⟩
      rw [hsplit, hempty, List.append_nil, List.intercalate_singleton]
  | succ left ih =>
      obtain ⟨field, rest, mac', hfield, hsplit, hsep, hread'⟩ := exists_field_of_round hread
      rw [separator, if_neg (by omega)] at hsep
      obtain ⟨rest, rfl⟩ := List.head?_eq_some_iff.mp hsep
      obtain ⟨fields, hlength, hfields, hrest⟩ := ih (by omega) hread'
      match fields, hlength with
      | next :: fields, hlength =>
          refine ⟨field :: next :: fields, congrArg Nat.succ hlength,
            List.forall_mem_cons.mpr ⟨hfield, hfields⟩, ?_⟩
          rw [List.drop_one, List.tail_cons] at hrest
          rw [hsplit, hrest, List.intercalate_cons_cons, List.append_assoc]
          rfl

end Mac

theorem readMacLoop_of_fields {mac : List UInt8} (hmac : mac.length = ethAlen)
    {fields : List (List Char)} (hlength : fields.length = ethAlen)
    (hfields : ∀ f ∈ fields, IsField 16 f) :
    readMacLoop mac 0 (List.intercalate colon fields) ethAlen = (none, fields.map macByte) :=
  readMacLoop_fields hfields hlength rfl hmac

/-- `xen_net_read_mac` takes exactly the texts of six fields with colons between them, and every
byte of the address is the value of its field. -/
theorem xenNetReadMac_iff (store : Xenstore) (nodename : String) {mac : List UInt8}
    (hmac : mac.length = ethAlen) (address : List UInt8) :
    xenNetReadMac store nodename mac = (none, address) ↔
      ∃ fields, store nodename "mac" = .ok (List.intercalate colon fields) ∧
        fields.length = ethAlen ∧ (∀ f ∈ fields, IsField 16 f) ∧
        address = fields.map macByte := by
  unfold xenNetReadMac
  cases hstore : store nodename "mac" with
  | error e => simp
  | ok macstr =>
      constructor
      · intro hread
        have hloop : (readMacLoop mac 0 macstr (5 + 1)).1 = none := congrArg Prod.fst hread
        obtain ⟨fields, hlength, hfields, rfl⟩ := exists_fields rfl hloop
        have htaken := readMacLoop_of_fields hmac hlength hfields
        exact ⟨fields, rfl, hlength, hfields, congrArg Prod.snd (hread.symm.trans htaken)⟩
      · rintro ⟨fields, hmacstr, hlength, hfields, rfl⟩
        obtain rfl := Except.ok.inj hmacstr
        exact readMacLoop_of_fields hmac hlength hfields

theorem xenNetReadMac_iff_sample :
    xenNetReadMac (fun _ _ => .ok "0x:1:fF:12:0x12:112".toList) "backend"
        (List.replicate 6 0) = (none, [0, 1, 255, 18, 18, 18]) :=
  (xenNetReadMac_iff _ _ rfl _).mpr
    ⟨["0x".toList, "1".toList, "fF".toList, "12".toList, "0x12".toList, "112".toList], rfl, rfl,
      by decide, rfl⟩

/-- An address as `%02x:%02x:%02x:%02x:%02x:%02x` prints it. -/
def macText (mac : List UInt8) : List Char :=
  List.intercalate colon (mac.map fun byte => fixed Nat.digitChar 16 2 byte.toNat)

theorem digitValue_digitChar {d : Nat} (hd : d < 16) : digitValue (Nat.digitChar d) = some d := by
  revert d
  decide

theorem isField_fixed (n : Nat) : IsField 16 (fixed Nat.digitChar 16 2 n) ∧
    ofDigits 16 (dropPrefix 16 (fixed Nat.digitChar 16 2 n)) = n % 256 := by
  have hdigits : ∀ c ∈ fixed Nat.digitChar 16 2 n, isDigit 16 c = true := by
    intro c hc
    obtain ⟨d, hd, rfl⟩ := mem_fixed (by decide) hc
    simpa [isDigit, digitValue_digitChar hd] using hd
  have hdrop := dropPrefix_of_digits hdigits
  refine ⟨⟨by simp [fixed], by rw [hdrop]; exact hdigits⟩, ?_⟩
  have hhigh := digitValue_digitChar (Nat.mod_lt (n / 16) (by decide : 0 < 16))
  have hlow := digitValue_digitChar (Nat.mod_lt n (by decide : 0 < 16))
  rw [hdrop]
  simp only [fixed, List.nil_append, List.singleton_append, ofDigits, List.foldl_cons,
    List.foldl_nil, hhigh, hlow, Option.getD_some]
  omega

theorem macByte_fixed (byte : UInt8) : macByte (fixed Nat.digitChar 16 2 byte.toNat) = byte := by
  have hvalue := (isField_fixed byte.toNat).2
  have hlt := byte.toNat_lt
  rw [macByte, fieldValue, hvalue]
  apply UInt8.toNat_inj.mp
  rw [UInt64.toNat_toUInt8, UInt64.toNat_ofNat']
  omega

/-- A printed address is read back. -/
theorem xenNetReadMac_macText {store : Xenstore} {nodename : String} {mac address : List UInt8}
    (hmac : mac.length = ethAlen) (haddress : address.length = ethAlen)
    (hstore : store nodename "mac" = .ok (macText address)) :
    xenNetReadMac store nodename mac = (none, address) := by
  have hfields : ∀ f ∈ address.map fun byte => fixed Nat.digitChar 16 2 byte.toNat,
      IsField 16 f := by
    intro f hf
    obtain ⟨byte, -, rfl⟩ := List.mem_map.mp hf
    exact (isField_fixed byte.toNat).1
  have htaken := readMacLoop_of_fields hmac ((List.length_map _).trans haddress) hfields
  rw [xenNetReadMac, hstore]
  refine htaken.trans (congrArg (Prod.mk none) ?_)
  rw [List.map_map]
  exact (List.map_congr_left fun byte _ => macByte_fixed byte).trans (List.map_id _)

theorem xenNetReadMac_macText_sample :
    xenNetReadMac (fun _ _ => .ok (macText [0, 22, 62, 171, 5, 255])) "backend"
        (List.replicate 6 0) = (none, [0, 22, 62, 171, 5, 255]) :=
  xenNetReadMac_macText rfl rfl rfl

/-- A rate that is taken: bytes and microseconds with a comma between them. -/
def IsRate (text bytes usec : List Char) : Prop :=
  text = bytes ++ ',' :: usec ∧ IsField 10 bytes ∧ IsField 10 usec

theorem ends_comma (text : List Char) : Ends 10 (',' :: text) := by
  intro c hc
  obtain rfl : ',' = c := Option.some.inj hc
  decide

theorem xenNetReadRate_of_isRate {store : Xenstore} {nodename : String}
    {text bytes usec : List Char} (hstore : store nodename "rate" = .ok text)
    (hrate : IsRate text bytes usec) :
    xenNetReadRate store nodename = (fieldValue 10 bytes, fieldValue 10 usec) := by
  obtain ⟨rfl, hbytes, husec⟩ := hrate
  have hten : (10 : Nat) ≠ 0 := by decide
  have hfirst := simpleStrtoul_field hten hbytes (ends_comma usec)
  have hsecond := simpleStrtoul_field hten husec (ends_nil 10)
  rw [List.append_nil] at hsecond
  have hne : (',' :: usec).length ≠ (bytes ++ ',' :: usec).length := by
    have hpos := List.length_pos_of_ne_nil hbytes.1
    rw [List.length_append]
    omega
  have hne' : ([] : List Char).length ≠ usec.length := (List.length_pos_of_ne_nil husec.1).ne
  rw [xenNetReadRate, hstore]
  dsimp only
  rw [hfirst]
  dsimp only
  have hcomma : ¬((',' :: usec).length = (bytes ++ ',' :: usec).length ∨
      (',' :: usec).head? ≠ some ',') := not_or.mpr ⟨hne, not_not.mpr rfl⟩
  have hend : ¬(([] : List Char).length = usec.length ∨ ([] : List Char).head? ≠ none) :=
    not_or.mpr ⟨hne', not_not.mpr rfl⟩
  rw [if_neg hcomma, List.drop_one, List.tail_cons, hsecond]
  exact if_neg hend

theorem exists_field_of_read {text : List Char} {sep : Option Char}
    (hlength : (simpleStrtoul 10 text).2.length ≠ text.length)
    (hsep : (simpleStrtoul 10 text).2.head? = sep) :
    ∃ field rest, IsField 10 field ∧ text = field ++ rest ∧ rest.head? = sep ∧
      (simpleStrtoul 10 text).2 = rest := by
  obtain ⟨field, hsplit, hfield⟩ := exists_field (show (10 : Nat) ≠ 0 by decide) text
  have hne : field ≠ [] := by
    rintro rfl
    exact hlength (congrArg List.length hsplit).symm
  exact ⟨field, _, (hfield hne).1, hsplit, hsep, rfl⟩

/-- `xen_net_read_rate` takes exactly the rates, up to the size of a word, and leaves the bandwidth
unlimited after anything else. -/
theorem xenNetReadRate_spec (store : Xenstore) (nodename : String) :
    (∀ text bytes usec, store nodename "rate" = .ok text → IsRate text bytes usec →
      xenNetReadRate store nodename = (fieldValue 10 bytes, fieldValue 10 usec)) ∧
    ((∀ text bytes usec, store nodename "rate" = .ok text → ¬IsRate text bytes usec) →
      xenNetReadRate store nodename = unlimited) := by
  refine ⟨fun text bytes usec hstore hrate => xenNetReadRate_of_isRate hstore hrate,
    fun hnone => ?_⟩
  unfold xenNetReadRate
  cases hstore : store nodename "rate" with
  | error e => rfl
  | ok text =>
      dsimp only
      split
      · rfl
      · rename_i hfirst
        obtain ⟨hlength, hsep⟩ := not_or.mp hfirst
        obtain ⟨bytes, rest, hbytes, rfl, hcomma, hrest⟩ :=
          exists_field_of_read hlength (not_not.mp hsep)
        obtain ⟨usecText, rfl⟩ := List.head?_eq_some_iff.mp hcomma
        rw [hrest, List.drop_one, List.tail_cons]
        refine if_pos (by_contra fun hsecond => ?_)
        obtain ⟨hlength', hsep'⟩ := not_or.mp hsecond
        obtain ⟨usec, rest', husec, rfl, hend, -⟩ :=
          exists_field_of_read hlength' (not_not.mp hsep')
        rw [List.head?_eq_none_iff.mp hend, List.append_nil] at hstore
        exact hnone _ bytes usec hstore ⟨rfl, hbytes, husec⟩

end XenNet.VifSettings
