import XenNet.TransitionSystem
import Mathlib.Algebra.BigOperators.Group.List.Basic

namespace XenNet.RunTotals

open XenNet.TransitionSystem

variable {σ ε M : Type*} [AddMonoid M] {step : σ → ε → Option σ} {I : σ → Prop}

/-- The sum of the weights of the steps that the events make from `s` on. -/
def total (step : σ → ε → Option σ) (w : σ → ε → M) : σ → List ε → M
  | _, [] => 0
  | s, e :: es =>
      w s e +
        match step s e with
        | some t => total step w t es
        | none => 0

theorem measure_run {w : σ → ε → M} {m : σ → M}
    (hinv : ∀ s e t, I s → step s e = some t → I t)
    (hstep : ∀ s e t, I s → step s e = some t → m t = m s + w s e)
    {s t : σ} {es : List ε} (hs : I s) (hrun : run step s es = some t) :
    m t = m s + total step w s es := by
  induction es generalizing s with
  | nil =>
      obtain rfl : s = t := by simpa using hrun
      exact (add_zero _).symm
  | cons e es ih =>
      obtain ⟨u, hu, hrest⟩ := run_cons_eq_some.mp hrun
      rw [ih (hinv s e u hs hu) hrest, hstep s e u hs hu, total, hu, add_assoc]

theorem run_concat {s t u : σ} {e : ε} {es : List ε} (hrun : run step s es = some t)
    (hstep : step t e = some u) : run step s (es ++ [e]) = some u := by
  induction es generalizing s with
  | nil =>
      obtain rfl : s = t := by simpa using hrun
      exact run_cons_eq_some.mpr ⟨u, hstep, rfl⟩
  | cons e' es ih =>
      obtain ⟨v, hv, hrest⟩ := run_cons_eq_some.mp hrun
      exact run_cons_eq_some.mpr ⟨v, hv, ih hrest⟩

section Records

variable {α : Type*} {note : σ → ε → List α → List α}

/-- What is on record after the events, when each step changes the record in its way. -/
def record (step : σ → ε → Option σ) (note : σ → ε → List α → List α) :
    σ → List α → List ε → List α
  | _, as, [] => as
  | s, as, e :: es =>
      match step s e with
      | some t => record step note t (note s e as) es
      | none => as

/-- The rule of invariants, for a state and the record of how it came about. -/
theorem record_run {R : σ → List α → Prop}
    (hstep : ∀ s as e t, R s as → step s e = some t → R t (note s e as))
    {s t : σ} {as : List α} {es : List ε} (hs : R s as) (hrun : run step s es = some t) :
    R t (record step note s as es) := by
  induction es generalizing s as with
  | nil =>
      obtain rfl : s = t := by simpa using hrun
      exact hs
  | cons e es ih =>
      obtain ⟨u, hu, hrest⟩ := run_cons_eq_some.mp hrun
      rw [record, hu]
      exact ih (hstep s as e u hs hu) hrest

end Records

end XenNet.RunTotals
