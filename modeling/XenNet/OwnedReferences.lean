import Mathlib.Logic.Function.Basic

namespace XenNet.OwnedReferences

/-- What is referred to, and the owner and its generation; without one it never goes away. -/
structure Reference (μ α : Type*) where
  target : α
  owner : Option (μ × Nat)
  deriving Repr, DecidableEq

/-- The owners of the kind `μ` and the references in the slots `κ`. -/
structure Registry (κ μ α : Type*) where
  present : μ → Bool
  generation : μ → Nat
  slot : κ → Option (Reference μ α)

namespace Registry

variable {κ μ α : Type*}

/-- Nothing is there yet. -/
def empty : Registry κ μ α where
  present := fun _ => false
  generation := fun _ => 0
  slot := fun _ => none

section Operations

variable [DecidableEq κ] [DecidableEq μ] (t : Registry κ μ α)

def enroll (m : μ) : Registry κ μ α :=
  { t with present := Function.update t.present m true
           generation := Function.update t.generation m (t.generation m + 1) }

def retire (m : μ) : Registry κ μ α :=
  { t with present := Function.update t.present m false }

/-- A slot whose content needs no owner. -/
def insert (k : κ) (a : α) : Registry κ μ α :=
  { t with slot := Function.update t.slot k (some ⟨a, none⟩) }

def erase (k : κ) : Registry κ μ α :=
  { t with slot := Function.update t.slot k none }

/-- A slot, where there is one, gets something that the owner has now. -/
def assign (k : κ) (m : μ) (a : α) : Registry κ μ α :=
  { t with slot := Function.update t.slot k
             ((t.slot k).map fun _ => ⟨a, some (m, t.generation m)⟩) }

end Operations

/-- The owner is there, in the generation in which the reference was made. -/
def Live (t : Registry κ μ α) (r : Reference μ α) : Prop :=
  match r.owner with
  | some (m, g) => t.present m = true ∧ t.generation m = g
  | none => True

instance (t : Registry κ μ α) (r : Reference μ α) : Decidable (t.Live r) :=
  match hr : r.owner with
  | some (m, g) =>
      decidable_of_iff (t.present m = true ∧ t.generation m = g) (by rw [Live, hr])
  | none => isTrue (by rw [Live, hr]; trivial)

/-- All references are to things with `P`. -/
def AllSlots (t : Registry κ μ α) (P : Reference μ α → Prop) : Prop :=
  ∀ k r, t.slot k = some r → P r

def AllLive (t : Registry κ μ α) : Prop :=
  t.AllSlots t.Live

/-- The slot refers to something that is gone. -/
def Dangling (t : Registry κ μ α) (k : κ) : Prop :=
  ∃ r, t.slot k = some r ∧ ¬t.Live r

/-- No slot refers to anything of the owner. -/
def Unused (t : Registry κ μ α) (m : μ) : Prop :=
  t.AllSlots fun r => ∀ g, r.owner ≠ some (m, g)

/-- References are to generations that have begun. -/
def Dated (t : Registry κ μ α) : Prop :=
  t.AllSlots fun r => ∀ m g, r.owner = some (m, g) → g ≤ t.generation m

variable {t : Registry κ μ α} {P : Reference μ α → Prop}

theorem live_of_owner_none {r : Reference μ α} (hr : r.owner = none) : t.Live r := by
  rw [Live, hr]
  trivial

theorem live_iff {r : Reference μ α} {m : μ} {g : Nat} (hr : r.owner = some (m, g)) :
    t.Live r ↔ t.present m = true ∧ t.generation m = g := by
  rw [Live, hr]

theorem allSlots_empty : (empty : Registry κ μ α).AllSlots P := by
  intro k r hslot
  contradiction

section Slots

variable [DecidableEq κ]

theorem slot_insert (k k' : κ) (a : α) :
    (t.insert k a).slot k' = if k' = k then some ⟨a, none⟩ else t.slot k' :=
  Function.update_apply t.slot k (some ⟨a, none⟩) k'

theorem slot_erase (k k' : κ) : (t.erase k).slot k' = if k' = k then none else t.slot k' :=
  Function.update_apply t.slot k none k'

theorem slot_assign (k k' : κ) (m : μ) (a : α) :
    (t.assign k m a).slot k' =
      if k' = k then (t.slot k').map fun _ => ⟨a, some (m, t.generation m)⟩ else t.slot k' := by
  rw [assign]
  rcases eq_or_ne k' k with rfl | hne
  · rw [if_pos rfl]
    exact Function.update_self ..
  · rw [if_neg hne]
    exact Function.update_of_ne hne ..

theorem isSome_assign (k k' : κ) (m : μ) (a : α) :
    ((t.assign k m a).slot k').isSome = (t.slot k').isSome := by
  rw [slot_assign]
  split
  · exact Option.isSome_map
  · rfl

theorem AllSlots.insert (hall : t.AllSlots P) (k : κ) {a : α} (ha : P ⟨a, none⟩) :
    (t.insert k a).AllSlots P := by
  intro k' r hslot
  rw [slot_insert] at hslot
  split at hslot
  · cases hslot
    exact ha
  · exact hall k' r hslot

theorem AllSlots.erase (hall : t.AllSlots P) (k : κ) : (t.erase k).AllSlots P := by
  intro k' r hslot
  rw [slot_erase] at hslot
  split at hslot
  · contradiction
  · exact hall k' r hslot

theorem AllSlots.assign (hall : t.AllSlots P) (k : κ) {m : μ} {a : α}
    (ha : P ⟨a, some (m, t.generation m)⟩) : (t.assign k m a).AllSlots P := by
  intro k' r hslot
  rw [slot_assign] at hslot
  split at hslot
  · obtain ⟨old, -, rfl⟩ := Option.map_eq_some_iff.mp hslot
    exact ha
  · exact hall k' r hslot

theorem AllLive.insert (hlive : t.AllLive) (k : κ) (a : α) : (t.insert k a).AllLive :=
  AllSlots.insert hlive k trivial

theorem AllLive.erase (hlive : t.AllLive) (k : κ) : (t.erase k).AllLive :=
  AllSlots.erase hlive k

theorem AllLive.assign (hlive : t.AllLive) (k : κ) {m : μ} (hpresent : t.present m = true)
    (a : α) : (t.assign k m a).AllLive :=
  AllSlots.assign hlive k ⟨hpresent, rfl⟩

theorem Dated.insert (hdated : t.Dated) (k : κ) (a : α) : (t.insert k a).Dated := by
  refine AllSlots.insert hdated k fun m g howner => ?_
  contradiction

theorem Dated.erase (hdated : t.Dated) (k : κ) : (t.erase k).Dated :=
  AllSlots.erase hdated k

theorem Dated.assign (hdated : t.Dated) (k : κ) (m : μ) (a : α) : (t.assign k m a).Dated := by
  refine AllSlots.assign hdated k fun m' g howner => ?_
  cases howner
  exact Nat.le_refl _

theorem Dangling.insert {k k' : κ} (hdangling : t.Dangling k) (hne : k ≠ k') (a : α) :
    (t.insert k' a).Dangling k := by
  obtain ⟨r, hslot, hdead⟩ := hdangling
  exact ⟨r, by rw [slot_insert, if_neg hne, hslot], hdead⟩

theorem Dangling.erase {k k' : κ} (hdangling : t.Dangling k) (hne : k ≠ k') :
    (t.erase k').Dangling k := by
  obtain ⟨r, hslot, hdead⟩ := hdangling
  exact ⟨r, by rw [slot_erase, if_neg hne, hslot], hdead⟩

theorem Dangling.assign {k k' : κ} (hdangling : t.Dangling k) (hne : k ≠ k') (m : μ) (a : α) :
    (t.assign k' m a).Dangling k := by
  obtain ⟨r, hslot, hdead⟩ := hdangling
  exact ⟨r, by rw [slot_assign, if_neg hne, hslot], hdead⟩

theorem unused_assign_iff {k : κ} {m : μ} {a : α} :
    (t.assign k m a).Unused m ↔ t.slot k = none ∧ t.Unused m := by
  constructor
  · intro hunused
    have hnone : t.slot k = none := by
      by_contra hsome
      obtain ⟨old, hold⟩ := Option.ne_none_iff_exists'.mp hsome
      refine hunused k ⟨a, some (m, t.generation m)⟩ ?_ _ rfl
      rw [slot_assign, if_pos rfl, hold, Option.map_some]
    refine ⟨hnone, fun k' r hslot => hunused k' r ?_⟩
    have hne : k' ≠ k := by
      rintro rfl
      rw [hnone] at hslot
      contradiction
    rw [slot_assign, if_neg hne, hslot]
  · rintro ⟨hnone, hunused⟩ k' r hslot
    rw [slot_assign] at hslot
    split at hslot
    · rename_i hk
      rw [hk, hnone] at hslot
      contradiction
    · exact hunused k' r hslot

end Slots

section Owners

variable [DecidableEq μ]

theorem present_enroll (m m' : μ) :
    (t.enroll m).present m' = if m' = m then true else t.present m' :=
  Function.update_apply t.present m true m'

theorem present_retire (m m' : μ) :
    (t.retire m).present m' = if m' = m then false else t.present m' :=
  Function.update_apply t.present m false m'

theorem Dated.enroll (hdated : t.Dated) (m : μ) : (t.enroll m).Dated := by
  intro k r hslot m' g howner
  have hbegun : g ≤ t.generation m' := hdated k r hslot m' g howner
  rcases eq_or_ne m' m with rfl | hne
  · have hnew : (t.enroll m').generation m' = t.generation m' + 1 := Function.update_self ..
    omega
  · have hsame : (t.enroll m).generation m' = t.generation m' := Function.update_of_ne hne ..
    omega

theorem Dated.retire (hdated : t.Dated) (m : μ) : (t.retire m).Dated :=
  hdated

theorem Live.enroll {r : Reference μ α} {m : μ} (habsent : t.present m = false)
    (hlive : t.Live r) : (t.enroll m).Live r := by
  cases howner : r.owner with
  | none => exact live_of_owner_none howner
  | some owner =>
      obtain ⟨m', g⟩ := owner
      obtain ⟨hpresent, hgeneration⟩ := (live_iff howner).mp hlive
      have hne : m' ≠ m := by
        rintro rfl
        exact absurd (hpresent.symm.trans habsent) (by decide)
      exact (live_iff howner).mpr
        ⟨(Function.update_of_ne hne ..).trans hpresent,
          (Function.update_of_ne hne ..).trans hgeneration⟩

theorem not_live_enroll (hdated : t.Dated) {k : κ} {r : Reference μ α}
    (hslot : t.slot k = some r) (hdead : ¬t.Live r) (m : μ) : ¬(t.enroll m).Live r := by
  cases howner : r.owner with
  | none => exact absurd (live_of_owner_none howner) hdead
  | some owner =>
      obtain ⟨m', g⟩ := owner
      have hbegun := hdated k r hslot m' g howner
      rw [live_iff howner] at hdead ⊢
      rintro ⟨hpresent, hgeneration⟩
      rcases eq_or_ne m' m with rfl | hne
      · have hnew : (t.enroll m').generation m' = t.generation m' + 1 := Function.update_self ..
        omega
      · exact hdead ⟨(Function.update_of_ne hne ..).symm.trans hpresent,
          (Function.update_of_ne hne ..).symm.trans hgeneration⟩

theorem live_retire_iff {r : Reference μ α} {m : μ} :
    (t.retire m).Live r ↔ t.Live r ∧ ∀ g, r.owner ≠ some (m, g) := by
  cases howner : r.owner with
  | none => simp [live_of_owner_none howner]
  | some owner =>
      obtain ⟨m', g⟩ := owner
      rw [live_iff howner, live_iff howner, present_retire]
      rcases eq_or_ne m' m with rfl | hne
      · rw [if_pos rfl]
        refine iff_of_false (fun hlive => absurd hlive.1 (by decide)) ?_
        rintro ⟨-, hother⟩
        exact hother g rfl
      · rw [if_neg hne]
        refine (and_iff_left ?_).symm
        rintro g' hsame
        exact hne (congrArg Prod.fst (Option.some.inj hsame))

theorem AllLive.enroll (hlive : t.AllLive) {m : μ} (habsent : t.present m = false) :
    (t.enroll m).AllLive := fun k r hslot =>
  Live.enroll habsent (hlive k r hslot)

theorem allLive_retire_iff (hlive : t.AllLive) {m : μ} :
    (t.retire m).AllLive ↔ t.Unused m := by
  constructor
  · intro hall k r hslot
    exact (live_retire_iff.mp (hall k r hslot)).2
  · intro hunused k r hslot
    exact live_retire_iff.mpr ⟨hlive k r hslot, hunused k r hslot⟩

theorem Dangling.enroll (hdated : t.Dated) {k : κ} (hdangling : t.Dangling k) (m : μ) :
    (t.enroll m).Dangling k := by
  obtain ⟨r, hslot, hdead⟩ := hdangling
  exact ⟨r, hslot, not_live_enroll hdated hslot hdead m⟩

theorem Dangling.retire {k : κ} (hdangling : t.Dangling k) (m : μ) :
    (t.retire m).Dangling k := by
  obtain ⟨r, hslot, hdead⟩ := hdangling
  exact ⟨r, hslot, fun hlive => hdead (live_retire_iff.mp hlive).1⟩

/-- What an owner leaves behind in a slot as it goes dangles. -/
theorem dangling_assign_retire [DecidableEq κ] {k : κ} (hslot : (t.slot k).isSome) (m : μ)
    (a : α) : ((t.assign k m a).retire m).Dangling k := by
  obtain ⟨old, hold⟩ := Option.isSome_iff_exists.mp hslot
  refine ⟨⟨a, some (m, t.generation m)⟩, ?_, fun hlive => (live_retire_iff.mp hlive).2 _ rfl⟩
  show (t.assign k m a).slot k = _
  rw [slot_assign, if_pos rfl, hold, Option.map_some]

end Owners

end Registry

end XenNet.OwnedReferences
