import XenNet.TransitionSystem

/-!
A system as a channel. Some steps put values in, others take values out, and what was put in and
not yet taken waits in a queue that is read off the state. If every step leaves the queue as a
queue should, nothing is lost, doubled or overtaken in a whole run.
-/

namespace XenNet.FifoChannel

open XenNet.TransitionSystem

variable {σ ε α : Type*}

/-- What goes into a channel and what comes out of it. -/
structure Transfer (α : Type*) where
  sent : List α
  taken : List α

namespace Transfer

def idle : Transfer α := ⟨[], []⟩

def send (sent : List α) : Transfer α := ⟨sent, []⟩

def take (taken : List α) : Transfer α := ⟨[], taken⟩

/-- One transfer after the other. -/
def andThen (x y : Transfer α) : Transfer α := ⟨x.sent ++ y.sent, x.taken ++ y.taken⟩

end Transfer

/-- What the queue held and what was sent is what was taken and what the queue holds now. -/
def Passes (queue : List α) (x : Transfer α) (queue' : List α) : Prop :=
  queue ++ x.sent = x.taken ++ queue'

theorem passes_idle (queue : List α) : Passes queue Transfer.idle queue :=
  List.append_nil queue

theorem passes_send (queue sent : List α) : Passes queue (Transfer.send sent) (queue ++ sent) :=
  rfl

theorem passes_take {queue taken rest : List α} (hqueue : queue = taken ++ rest) :
    Passes queue (Transfer.take taken) rest :=
  (List.append_nil queue).trans hqueue

theorem Passes.andThen {x y : Transfer α} {queue middle queue' : List α}
    (hx : Passes queue x middle) (hy : Passes middle y queue') :
    Passes queue (x.andThen y) queue' := by
  unfold Passes at hx hy ⊢
  calc queue ++ (x.sent ++ y.sent) = (queue ++ x.sent) ++ y.sent := (List.append_assoc ..).symm
    _ = x.taken ++ (middle ++ y.sent) := by rw [hx, List.append_assoc]
    _ = (x.taken ++ y.taken) ++ queue' := by rw [hy, List.append_assoc]

/-- The transfers of a run, by those of its steps. -/
def transferred (step : σ → ε → Option σ) (act : σ → ε → Transfer α) : σ → List ε → Transfer α
  | _, [] => Transfer.idle
  | s, e :: es =>
      match step s e with
      | some t => (act s e).andThen (transferred step act t es)
      | none => Transfer.idle

/-- The steps that satisfy `G` keep the invariant `I` and treat `queue` as a queue. -/
structure IsChannel (step : σ → ε → Option σ) (G : σ → ε → Prop) (I : σ → Prop)
    (queue : σ → List α) (act : σ → ε → Transfer α) : Prop where
  keeps : ∀ s e t, I s → G s e → step s e = some t → I t
  passes : ∀ s e t, I s → G s e → step s e = some t → Passes (queue s) (act s e) (queue t)

/-- The rule of channels: a run passes its values in order. -/
theorem IsChannel.run {step : σ → ε → Option σ} {G : σ → ε → Prop} {I : σ → Prop}
    {queue : σ → List α} {act : σ → ε → Transfer α} (hchannel : IsChannel step G I queue act)
    {s t : σ} {es : List ε} (hs : I s) (hG : Along step G s es)
    (hrun : TransitionSystem.run step s es = some t) :
    Passes (queue s) (transferred step act s es) (queue t) := by
  induction es generalizing s with
  | nil =>
      obtain rfl : s = t := by simpa using hrun
      exact passes_idle _
  | cons e es ih =>
      obtain ⟨u, hu, hrest⟩ := run_cons_eq_some.mp hrun
      have hnext := ih (hchannel.keeps s e u hs hG.1 hu) (hG.2 u hu) hrest
      rw [transferred, hu]
      exact (hchannel.passes s e u hs hG.1 hu).andThen hnext

end XenNet.FifoChannel
