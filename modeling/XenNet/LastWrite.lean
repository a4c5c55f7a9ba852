import Mathlib.Data.List.Basic

namespace XenNet.LastWrite

variable {σ ε α β : Type*}

/-- The value written by the last event of the list that writes one. -/
def lastWrite (w : ε → Option α) (es : List ε) : Option α :=
  (es.filterMap w).getLast?

@[simp] theorem lastWrite_nil (w : ε → Option α) : lastWrite w [] = none := rfl

theorem lastWrite_cons (w : ε → Option α) (e : ε) (es : List ε) :
    lastWrite w (e :: es) = (lastWrite w es).or (w e) := by
  unfold lastWrite
  cases hw : w e with
  | none => rw [List.filterMap_cons_none hw, Option.or_none]
  | some a =>
      rw [List.filterMap_cons_some hw, List.getLast?_cons]
      cases (es.filterMap w).getLast? <;> rfl

theorem lastWrite_append (w : ε → Option α) (es es' : List ε) :
    lastWrite w (es ++ es') = (lastWrite w es').or (lastWrite w es) := by
  unfold lastWrite
  rw [List.filterMap_append, List.getLast?_append]

theorem lastWrite_concat (w : ε → Option α) (es : List ε) (e : ε) :
    lastWrite w (es ++ [e]) = (w e).or (lastWrite w es) := by
  rw [lastWrite_append, lastWrite_cons, lastWrite_nil, Option.none_or]

theorem read_foldl_of_mem {step : σ → ε → σ} {read : σ → α} {w : ε → Option α} {es : List ε}
    (hread : ∀ e ∈ es, ∀ s, read (step s e) = (w e).getD (read s)) (s : σ) :
    read (es.foldl step s) = (lastWrite w es).getD (read s) := by
  induction es generalizing s with
  | nil => rfl
  | cons e es ih =>
      rw [List.foldl_cons, ih fun e' he' => hread e' (List.mem_cons_of_mem e he'), lastWrite_cons,
        hread e List.mem_cons_self]
      cases lastWrite w es <;> rfl

/-- The rule of the last write. -/
theorem read_foldl (step : σ → ε → σ) (read : σ → α) (w : ε → Option α)
    (hread : ∀ s e, read (step s e) = (w e).getD (read s)) (s : σ) (es : List ε) :
    read (es.foldl step s) = (lastWrite w es).getD (read s) :=
  read_foldl_of_mem (fun e _ s => hread s e) s

theorem lastWrite_eq_none_iff {w : ε → Option α} {es : List ε} :
    lastWrite w es = none ↔ ∀ e ∈ es, w e = none := by
  rw [lastWrite, List.getLast?_eq_none_iff, List.filterMap_eq_nil_iff]

theorem exists_of_lastWrite {w : ε → Option α} {es : List ε} {a : α}
    (hlast : lastWrite w es = some a) : ∃ e ∈ es, w e = some a :=
  List.mem_filterMap.mp (List.mem_of_getLast? hlast)

theorem lastWrite_of_getLast? {w : ε → Option α} {es : List ε} {e : ε} {a : α}
    (hlast : es.getLast? = some e) (hw : w e = some a) : lastWrite w es = some a := by
  obtain ⟨es', rfl⟩ := List.getLast?_eq_some_iff.mp hlast
  rw [lastWrite_concat, hw, Option.some_or]

theorem lastWrite_range {w : Nat → Option α} {n i : Nat} {a : α} (hi : i < n)
    (hw : w i = some a) (hlater : ∀ j, i < j → j < n → w j = none) :
    lastWrite w (List.range n) = some a := by
  induction n with
  | zero => contradiction
  | succ n ih =>
      rw [List.range_succ, lastWrite_concat]
      rcases Nat.lt_succ_iff_lt_or_eq.mp hi with hlt | rfl
      · rw [hlater n hlt (Nat.lt_succ_self n), Option.none_or]
        exact ih hlt fun j hij hj => hlater j hij (Nat.lt_succ_of_lt hj)
      · rw [hw, Option.some_or]

theorem lastWrite_congr {w w' : ε → Option α} {es : List ε} (hw : ∀ e ∈ es, w e = w' e) :
    lastWrite w es = lastWrite w' es :=
  congrArg List.getLast? (List.filterMap_congr hw)

theorem lastWrite_map (w : ε → Option α) (f : α → β) (es : List ε) :
    lastWrite (fun e => (w e).map f) es = (lastWrite w es).map f := by
  induction es with
  | nil => rfl
  | cons e es ih =>
      rw [lastWrite_cons, lastWrite_cons, ih]
      cases lastWrite w es <;> rfl

theorem lastWrite_filter_value {w : ε → Option α} {p : α → Bool} {es : List ε} {a : α}
    (hlast : lastWrite w es = some a) (hpa : p a = true) :
    lastWrite (fun e => (w e).filter p) es = some a := by
  induction es with
  | nil => contradiction
  | cons e es ih =>
      rw [lastWrite_cons] at hlast ⊢
      cases hes : lastWrite w es with
      | some b =>
          rw [hes] at hlast
          rw [ih (hes.trans hlast)]
          rfl
      | none =>
          rw [hes, Option.none_or] at hlast
          have hnone : lastWrite (fun e => (w e).filter p) es = none := by
            rw [lastWrite_eq_none_iff] at hes ⊢
            intro e' he'
            rw [hes e' he']
            rfl
          rw [hnone, hlast, Option.none_or, Option.filter_some, if_pos hpa]

end XenNet.LastWrite
