import Mathlib.Data.List.Basic

namespace XenNet.StateDiagram

variable {σ : Type*} {edge : σ → σ → Prop}

/-- The states of `path` lead from the first state to the second, one edge at a time. -/
def Leads (edge : σ → σ → Prop) : σ → σ → List σ → Prop
  | s, t, [] => s = t
  | s, t, u :: path => edge s u ∧ Leads edge u t path

theorem Leads.append {s t u : σ} {path path' : List σ} (hleads : Leads edge s t path)
    (hleads' : Leads edge t u path') : Leads edge s u (path ++ path') := by
  induction path generalizing s with
  | nil =>
      obtain rfl : s = t := hleads
      exact hleads'
  | cons v path ih => exact ⟨hleads.1, ih hleads.2⟩

/-- There is no way with fewer edges. -/
def Shortest (edge : σ → σ → Prop) (s t : σ) (path : List σ) : Prop :=
  Leads edge s t path ∧ ∀ other, Leads edge s t other → path.length ≤ other.length

theorem Leads.le_length {d : σ → Nat} (hedge : ∀ s u, edge s u → d s ≤ d u + 1) {s t : σ}
    {path : List σ} (hleads : Leads edge s t path) : d s ≤ d t + path.length := by
  induction path generalizing s with
  | nil =>
      obtain rfl : s = t := hleads
      exact Nat.le_refl _
  | cons u path ih =>
      have hrest := ih hleads.2
      have hstep := hedge s u hleads.1
      rw [List.length_cons]
      omega

theorem Leads.shortest {d : σ → Nat} (hedge : ∀ s u, edge s u → d s ≤ d u + 1) {s t : σ}
    (hgoal : d t = 0) {path : List σ} (hleads : Leads edge s t path)
    (hlength : path.length = d s) : Shortest edge s t path := by
  refine ⟨hleads, fun other hother => ?_⟩
  have hle := hother.le_length hedge
  omega

end XenNet.StateDiagram
