import XenNet.CyclicIndex

namespace XenNet.RingSegment

open XenNet.CyclicIndex

variable {α : Type*}

/-- The values of the `k` slots that start at position `a`, in ring order. -/
def contents (n : Nat) (slot : Nat → α) (a k : Nat) : List α :=
  (span n a k).map slot

@[simp] theorem contents_zero (n : Nat) (slot : Nat → α) (a : Nat) :
    contents n slot a 0 = [] := rfl

@[simp] theorem length_contents (n : Nat) (slot : Nat → α) (a k : Nat) :
    (contents n slot a k).length = k := by
  simp [contents]

theorem contents_succ (n : Nat) (slot : Nat → α) (a k : Nat) :
    contents n slot a (k + 1) = contents n slot a k ++ [slot (advance n a k)] := by
  simp [contents, span_succ]

theorem contents_add (n : Nat) (slot : Nat → α) (a k l : Nat) :
    contents n slot a (k + l) =
      contents n slot a k ++ contents n slot (advance n a k) l := by
  simp [contents, span_add]

theorem contents_congr {n a k : Nat} {slot slot' : Nat → α}
    (hslot : ∀ t, t < k → slot (advance n a t) = slot' (advance n a t)) :
    contents n slot a k = contents n slot' a k := by
  unfold contents
  apply List.map_congr_left
  intro i hi
  obtain ⟨t, ht, rfl⟩ := mem_span_iff.mp hi
  exact hslot t ht

theorem contents_push {n a k : Nat} (slot : Nat → α) {slot' : Nat → α}
    (hframe : ∀ t, t < k → slot' (advance n a t) = slot (advance n a t)) :
    contents n slot' a (k + 1) =
      contents n slot a k ++ [slot' (advance n a k)] := by
  rw [contents_succ, contents_congr hframe]

theorem contents_prefix_of_le (n : Nat) (slot : Nat → α) (a : Nat) {k l : Nat} (hle : k ≤ l) :
    contents n slot a k <+: contents n slot a l := by
  obtain ⟨m, rfl⟩ := Nat.exists_eq_add_of_le hle
  rw [contents_add]
  exact List.prefix_append _ _

theorem contents_map {β : Type*} (n : Nat) (slot : Nat → α) (f : α → β) (a k : Nat) :
    (contents n slot a k).map f = contents n (fun i => f (slot i)) a k := by
  simp [contents]

end XenNet.RingSegment
