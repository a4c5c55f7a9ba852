import Mathlib.Data.List.Basic

namespace XenNet.ByteMemory

variable {β : Type*}

/-- The memory `dst` after `len` cells of `src` from address `q` on were copied to
address `p`. -/
def memcpy (dst : Nat → β) (p : Nat) (src : Nat → β) (q len : Nat) : Nat → β :=
  fun a => if p ≤ a ∧ a < p + len then src (q + (a - p)) else dst a

/-- The `len` cells from address `p` on. -/
def bytes (mem : Nat → β) (p len : Nat) : List β :=
  (List.range len).map fun k => mem (p + k)

@[simp] theorem length_bytes (mem : Nat → β) (p len : Nat) :
    (bytes mem p len).length = len := by
  simp [bytes]

theorem bytes_congr {mem mem' : Nat → β} {p len : Nat}
    (hmem : ∀ k, k < len → mem (p + k) = mem' (p + k)) :
    bytes mem p len = bytes mem' p len := by
  unfold bytes
  apply List.map_congr_left
  intro k hk
  exact hmem k (List.mem_range.mp hk)

/-- The memory as a pointer to address `p` sees it. -/
def pointer (mem : Nat → β) (p : Nat) : Nat → β :=
  fun a => mem (p + a)

theorem bytes_pointer (mem : Nat → β) (p q len : Nat) :
    bytes (pointer mem p) q len = bytes mem (p + q) len := by
  apply List.map_congr_left
  intro k _
  exact congrArg mem (Nat.add_assoc p q k).symm

theorem bytes_eq_iff {mem mem' : Nat → β} {p q len : Nat} :
    bytes mem p len = bytes mem' q len ↔ ∀ k, k < len → mem (p + k) = mem' (q + k) := by
  rw [bytes, bytes, List.map_inj_left]
  exact forall_congr' fun k => imp_congr List.mem_range Iff.rfl

theorem bytes_eq_replicate_iff {mem : Nat → β} {p len : Nat} {x : β} :
    bytes mem p len = List.replicate len x ↔ ∀ k, k < len → mem (p + k) = x := by
  rw [List.eq_replicate_iff, length_bytes, bytes, List.forall_mem_map]
  constructor
  · rintro ⟨_, hmem⟩ k hk
    exact hmem k (List.mem_range.mpr hk)
  · intro hmem
    exact ⟨rfl, fun k hk => hmem k (List.mem_range.mp hk)⟩

/-- A memory that holds the list from address `0` on. -/
def ofList (l : List β) (default : β) : Nat → β :=
  fun a => l.getD a default

theorem bytes_ofList (l : List β) (default : β) : bytes (ofList l default) 0 l.length = l := by
  apply List.ext_getElem
  · simp
  · intro k hk hk'
    simp [bytes, ofList, hk']

theorem memcpy_inside (dst src : Nat → β) (p q : Nat) {len k : Nat} (hk : k < len) :
    memcpy dst p src q len (p + k) = src (q + k) := by
  simp [memcpy, hk]

theorem memcpy_outside (dst src : Nat → β) {p a : Nat} (q : Nat) {len : Nat}
    (ha : a < p ∨ p + len ≤ a) :
    memcpy dst p src q len a = dst a := by
  unfold memcpy
  rw [if_neg (by omega)]

theorem memcpy_changes_iff (dst src : Nat → β) (p q len size : Nat) :
    (∀ a, memcpy dst p src q len a ≠ dst a → p ≤ a ∧ a < p + size) ↔
      ∀ o, size ≤ o → o < len → src (q + o) = dst (p + o) := by
  constructor
  · intro hchanges o hsize hlen
    rw [← memcpy_inside dst src p q hlen]
    by_contra hne
    obtain ⟨_, hlt⟩ := hchanges _ hne
    omega
  · intro hsame a hne
    by_contra hbehind
    apply hne
    by_cases hinside : p ≤ a ∧ a < p + len
    · obtain ⟨o, rfl⟩ := Nat.exists_eq_add_of_le hinside.1
      rw [memcpy_inside dst src p q (by omega)]
      exact hsame o (by omega) (by omega)
    · exact memcpy_outside dst src q (by omega)

theorem bytes_memcpy (dst src : Nat → β) (p q len : Nat) :
    bytes (memcpy dst p src q len) p len = bytes src q len := by
  unfold bytes
  apply List.map_congr_left
  intro k hk
  exact memcpy_inside dst src p q (List.mem_range.mp hk)

theorem bytes_memcpy_disjoint (dst src : Nat → β) {p a len l : Nat} (q : Nat)
    (hdisjoint : a + l ≤ p ∨ p + len ≤ a) :
    bytes (memcpy dst p src q len) a l = bytes dst a l := by
  apply bytes_congr
  intro k hk
  exact memcpy_outside dst src q (by omega)

end XenNet.ByteMemory
