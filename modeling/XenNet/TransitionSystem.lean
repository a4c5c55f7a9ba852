import Mathlib.Data.List.Basic

/-!
Systems that move by events. An event that is not possible in a state has no
successor there. A run is a list of events; what holds initially and is kept by
every step holds after every run, and a condition on the single steps can be
required of all the steps of a run.
-/

namespace XenNet.TransitionSystem

variable {σ ε : Type*}

/-- The state that the events lead to, when each of them is possible in turn. -/
def run (step : σ → ε → Option σ) : σ → List ε → Option σ
  | s, [] => some s
  | s, e :: es =>
      match step s e with
      | some t => run step t es
      | none => none

/-- Every step that the events make from `s` on satisfies `G`. -/
def Along (step : σ → ε → Option σ) (G : σ → ε → Prop) : σ → List ε → Prop
  | _, [] => True
  | s, e :: es => G s e ∧ ∀ t, step s e = some t → Along step G t es

instance Along.decidable {step : σ → ε → Option σ} {G : σ → ε → Prop}
    [∀ s e, Decidable (G s e)] : (s : σ) → (es : List ε) → Decidable (Along step G s es)
  | _, [] => isTrue trivial
  | s, e :: es =>
      match hstep : step s e with
      | some t =>
          have : Decidable (Along step G t es) := Along.decidable t es
          decidable_of_iff (G s e ∧ Along step G t es) (by simp [Along, hstep])
      | none => decidable_of_iff (G s e) (by simp [Along, hstep])

@[simp] theorem run_nil (step : σ → ε → Option σ) (s : σ) :
    run step s [] = some s := rfl

theorem run_cons_eq_some {step : σ → ε → Option σ} {s u : σ} {e : ε} {es : List ε} :
    run step s (e :: es) = some u ↔
      ∃ t, step s e = some t ∧ run step t es = some u := by
  simp only [run]
  cases hstep : step s e with
  | none => simp
  | some t => simp

theorem along_true (step : σ → ε → Option σ) (s : σ) (es : List ε) :
    Along step (fun _ _ => True) s es := by
  induction es generalizing s with
  | nil => trivial
  | cons e es ih => exact ⟨trivial, fun t _ => ih t⟩

theorem Along.and {step : σ → ε → Option σ} {G H : σ → ε → Prop} {s : σ} {es : List ε}
    (hG : Along step G s es) (hH : Along step H s es) :
    Along step (fun t e => G t e ∧ H t e) s es := by
  induction es generalizing s with
  | nil => trivial
  | cons e es ih =>
      exact ⟨⟨hG.1, hH.1⟩, fun t ht => ih (hG.2 t ht) (hH.2 t ht)⟩

theorem Along.last {step : σ → ε → Option σ} {G : σ → ε → Prop} {s t : σ} {e : ε}
    {es : List ε} (hG : Along step G s (es ++ [e])) (hrun : run step s es = some t) :
    G t e := by
  induction es generalizing s with
  | nil =>
      have hst : s = t := by simpa using hrun
      exact hst ▸ hG.1
  | cons e' es ih =>
      obtain ⟨u, hu, hrest⟩ := run_cons_eq_some.mp hrun
      exact ih (hG.2 u hu) hrest

/-- The rule of invariants, for the runs whose steps all satisfy `G`. -/
theorem invariant_of_along {step : σ → ε → Option σ} {G : σ → ε → Prop} {I : σ → Prop}
    (hstep : ∀ s e t, I s → G s e → step s e = some t → I t)
    {s t : σ} {es : List ε} (hs : I s) (hG : Along step G s es)
    (hrun : run step s es = some t) : I t := by
  induction es generalizing s with
  | nil =>
      have hst : s = t := by simpa using hrun
      exact hst ▸ hs
  | cons e es ih =>
      obtain ⟨u, hu, hrest⟩ := run_cons_eq_some.mp hrun
      exact ih (hstep s e u hs hG.1 hu) (hG.2 u hu) hrest

theorem invariant_of_run {step : σ → ε → Option σ} {I : σ → Prop}
    (hstep : ∀ s e t, I s → step s e = some t → I t)
    {s t : σ} {es : List ε} (hs : I s) (hrun : run step s es = some t) : I t :=
  invariant_of_along (fun s e t hI _ => hstep s e t hI) hs (along_true step s es) hrun

theorem exists_run_of_forall {step : σ → ε → Option σ} {G : ε → Prop} {I : σ → Prop}
    (hstep : ∀ s e, I s → G e → ∃ t, step s e = some t ∧ I t)
    {s : σ} {es : List ε} (hs : I s) (hG : ∀ e ∈ es, G e) :
    ∃ t, run step s es = some t ∧ I t := by
  induction es generalizing s with
  | nil => exact ⟨s, rfl, hs⟩
  | cons e es ih =>
      obtain ⟨u, hu, hI⟩ := hstep s e hs (hG e List.mem_cons_self)
      obtain ⟨t, ht, hIt⟩ := ih hI fun e' he' => hG e' (List.mem_cons_of_mem e he')
      exact ⟨t, run_cons_eq_some.mpr ⟨u, hu, ht⟩, hIt⟩

theorem Along.mono {step : σ → ε → Option σ} {G H : σ → ε → Prop} {I : σ → Prop}
    (hstep : ∀ s e t, I s → G s e → step s e = some t → I t)
    (himp : ∀ s e, I s → G s e → H s e)
    {s : σ} {es : List ε} (hs : I s) (hG : Along step G s es) : Along step H s es := by
  induction es generalizing s with
  | nil => trivial
  | cons e es ih =>
      exact ⟨himp s e hs hG.1, fun t ht => ih (hstep s e t hs hG.1 ht) (hG.2 t ht)⟩

/-- Two conditions on the single steps that agree wherever the invariant holds select
the same runs. -/
theorem along_iff {step : σ → ε → Option σ} {G H : σ → ε → Prop} {I : σ → Prop}
    (hstep : ∀ s e t, I s → G s e → step s e = some t → I t)
    (hiff : ∀ s e, I s → (G s e ↔ H s e))
    {s : σ} {es : List ε} (hs : I s) : Along step G s es ↔ Along step H s es := by
  constructor
  · exact Along.mono hstep (fun s e hI => (hiff s e hI).mp) hs
  · refine Along.mono ?_ (fun s e hI => (hiff s e hI).mpr) hs
    intro s e t hI hH
    exact hstep s e t hI ((hiff s e hI).mpr hH)

/-- The rule of invariants for a loop that counts to `n`. -/
theorem foldl_range_invariant {f : σ → Nat → σ} {I : Nat → σ → Prop} {s : σ} {n : Nat}
    (hinit : I 0 s) (hstep : ∀ i t, i < n → I i t → I (i + 1) (f t i)) :
    I n ((List.range n).foldl f s) := by
  induction n with
  | zero => exact hinit
  | succ n ih =>
      rw [List.range_succ, List.foldl_append]
      exact hstep n _ (Nat.lt_succ_self n) (ih fun i t hi => hstep i t (by omega))

/-- What a loop of `n` rounds does, when round `i` does `act s i` in the state `s` that it
finds. -/
def loopTrace {α : Type*} (f : σ → Nat → σ) (act : σ → Nat → List α) (s : σ) (n : Nat) :
    List α :=
  (List.range n).flatMap fun i => act ((List.range i).foldl f s) i

theorem forall_mem_loopTrace_iff {α : Type*} {f : σ → Nat → σ} {act : σ → Nat → List α}
    {s : σ} {n : Nat} {P : α → Prop} :
    (∀ a, a ∈ loopTrace f act s n → P a) ↔
      ∀ i, i < n → ∀ a, a ∈ act ((List.range i).foldl f s) i → P a := by
  simp only [loopTrace, List.mem_flatMap, List.mem_range]
  constructor
  · intro hall i hi a ha
    exact hall a ⟨i, hi, ha⟩
  · rintro hall a ⟨i, hi, ha⟩
    exact hall i hi a ha

end XenNet.TransitionSystem
