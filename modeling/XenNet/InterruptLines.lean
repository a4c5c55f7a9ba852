import Mathlib.Logic.Function.Basic

namespace XenNet.InterruptLines

/-- A line that is bound, with the number of times it is disabled. -/
structure Line (H : Type*) where
  handler : H
  depth : Nat
  deriving Repr, DecidableEq

abbrev Lines (H : Type*) := Nat → Option (Line H)

variable {H : Type*}

def unbound : Lines H := fun _ => none

/-- The lines with line `irq` bound to `handler` and disabled `depth` times. -/
def withLine (lines : Lines H) (irq : Nat) (handler : H) (depth : Nat) : Lines H :=
  Function.update lines irq (some ⟨handler, depth⟩)

def bind (lines : Lines H) (irq : Nat) (handler : H) : Option (Lines H) :=
  match lines irq with
  | some _ => none
  | none => some (withLine lines irq handler 0)

def disable (lines : Lines H) (irq : Nat) : Option (Lines H) :=
  match lines irq with
  | some line => some (withLine lines irq line.handler (line.depth + 1))
  | none => none

def enable (lines : Lines H) (irq : Nat) : Option (Lines H) :=
  match lines irq with
  | some ⟨handler, depth + 1⟩ => some (withLine lines irq handler depth)
  | some ⟨_, 0⟩ => none
  | none => none

def unbind (lines : Lines H) (irq : Nat) : Option (Lines H) :=
  match lines irq with
  | some _ => some (Function.update lines irq none)
  | none => none

/-- An event is sent on a line that is bound. -/
def notify (lines : Lines H) (irq : Nat) : Option (Lines H) :=
  match lines irq with
  | some _ => some lines
  | none => none

section

variable {lines : Lines H} {irq irq' : Nat} {handler handler' : H} {depth depth' : Nat}

@[simp] theorem unbound_apply (irq : Nat) : (unbound : Lines H) irq = none := rfl

@[simp] theorem withLine_self : withLine lines irq handler depth irq = some ⟨handler, depth⟩ :=
  Function.update_self irq _ lines

theorem withLine_of_ne (hne : irq' ≠ irq) :
    withLine lines irq handler depth irq' = lines irq' :=
  Function.update_of_ne hne _ lines

@[simp] theorem withLine_idem :
    withLine (withLine lines irq handler depth) irq handler' depth' =
      withLine lines irq handler' depth' :=
  Function.update_idem _ _ lines

theorem withLine_comm (hne : irq' ≠ irq) :
    withLine (withLine lines irq handler depth) irq' handler' depth' =
      withLine (withLine lines irq' handler' depth') irq handler depth :=
  Function.update_comm hne.symm _ _ lines

theorem bind_of_eq_none (hfree : lines irq = none) :
    bind lines irq handler = some (withLine lines irq handler 0) := by
  rw [bind, hfree]

@[simp] theorem disable_withLine :
    disable (withLine lines irq handler depth) irq =
      some (withLine lines irq handler (depth + 1)) := by
  rw [disable, withLine_self]
  simp

@[simp] theorem enable_withLine :
    enable (withLine lines irq handler (depth + 1)) irq =
      some (withLine lines irq handler depth) := by
  rw [enable, withLine_self]
  simp

theorem unbind_of_eq_none (hfree : lines irq = none) : unbind lines irq = none := by
  rw [unbind, hfree]

theorem unbind_withLine (hfree : lines irq = none) :
    unbind (withLine lines irq handler depth) irq = some lines := by
  rw [unbind, withLine_self]
  refine congrArg some (funext fun irq' => ?_)
  rcases eq_or_ne irq' irq with rfl | hne
  · rw [Function.update_self, hfree]
  · rw [Function.update_of_ne hne, withLine_of_ne hne]

@[simp] theorem notify_withLine :
    notify (withLine lines irq handler depth) irq = some (withLine lines irq handler depth) := by
  rw [notify, withLine_self]

end

/-- A driver with two lines, the second bound after the first. -/
def twoLines (first second : Nat) (handler handler' : H) (depth : Nat) : Lines H :=
  withLine (withLine unbound first handler depth) second handler' depth

section

variable {first second : Nat} {handler handler' : H} {depth : Nat}

theorem twoLines_comm (hne : first ≠ second) :
    twoLines first second handler handler' depth =
      twoLines second first handler' handler depth :=
  withLine_comm hne.symm

theorem enable_twoLines (hne : first ≠ second) :
    enable (twoLines first second handler handler' (depth + 1)) first =
      some (withLine (withLine unbound first handler depth) second handler' (depth + 1)) := by
  rw [twoLines_comm hne, twoLines, enable_withLine, withLine_comm hne]

theorem disable_twoLines (hne : first ≠ second) :
    disable (twoLines first second handler handler' depth) first =
      some (withLine (withLine unbound first handler (depth + 1)) second handler' depth) := by
  rw [twoLines_comm hne, twoLines, disable_withLine, withLine_comm hne]

theorem unbind_twoLines (hne : first ≠ second) :
    unbind (twoLines first second handler handler' depth) first =
      some (withLine unbound second handler' depth) := by
  rw [twoLines_comm hne]
  exact unbind_withLine (withLine_of_ne hne)

end

end XenNet.InterruptLines
