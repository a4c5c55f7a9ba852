import XenNet.StateDiagram
import XenNet.NetbackXenbus

namespace XenNet.NetbackStates

open XenNet.StateDiagram
open XenNet.NetbackInterface
open XenNet.NetbackXenbus

/-- The transitions that the comment at `set_backend_state` allows. -/
inductive Allowed : XenbusState → XenbusState → Prop where
  | connect : Allowed .initWait .connected
  | giveUp : Allowed .initWait .closing
  | disconnect : Allowed .connected .closing
  | close : Allowed .closing .closed
  | reopen : Allowed .closed .closing
  | reconnect : Allowed .closed .initWait

/-- The states of the diagram. -/
inductive Live : XenbusState → Prop where
  | initWait : Live .initWait
  | connected : Live .connected
  | closing : Live .closing
  | closed : Live .closed

/-- The number of transitions to a state. -/
def distance : XenbusState → XenbusState → Nat
  | .initWait, .closed => 1
  | .initWait, .closing => 2
  | .initWait, .connected => 3
  | .connected, .initWait => 1
  | .connected, .closed => 2
  | .connected, .closing => 3
  | .closing, .initWait => 1
  | .closing, .connected => 1
  | .closing, .closed => 1
  | .closed, .closing => 1
  | .closed, .initWait => 2
  | .closed, .connected => 2
  | _, _ => 0

theorem distance_le {goal s u : XenbusState} (hallowed : Allowed s u) :
    distance goal s ≤ distance goal u + 1 := by
  cases hallowed <;> cases goal <;> decide

theorem distance_self (goal : XenbusState) : distance goal goal = 0 := by
  cases goal <;> rfl

/-- The states that are walked through before `Connected` is entered, if it is the goal. -/
def walk : XenbusState → XenbusState → List XenbusState
  | .closed, .initWait => [.initWait]
  | .closed, .connected => [.initWait]
  | .closed, .closing => [.closing]
  | .initWait, .closing => [.closing]
  | .initWait, .closed => [.closing, .closed]
  | .connected, .initWait => [.closing, .closed, .initWait]
  | .connected, .closing => [.closing]
  | .connected, .closed => [.closing, .closed]
  | .closing, .initWait => [.closed, .initWait]
  | .closing, .connected => [.closed, .initWait]
  | .closing, .closed => [.closed]
  | _, _ => []

/-- All the states on the way. -/
def way (s goal : XenbusState) : List XenbusState :=
  if s = goal then []
  else if goal = .connected then walk s goal ++ [.connected]
  else walk s goal

theorem shortest_way {s goal : XenbusState} (hs : Live s) (hgoal : Live goal) :
    Shortest Allowed s goal (way s goal) := by
  refine Leads.shortest (d := distance goal) (fun _ _ => distance_le) (distance_self goal) ?_ ?_
  · cases hs <;> cases hgoal <;> first | rfl | (repeat' constructor)
  · cases hs <;> cases hgoal <;> rfl

/-- The interface is disconnected when the state `Connected` is left. -/
def leave (be : Backend) : Backend :=
  if be.state = .connected then backendDisconnect be else be

/-- The interface is connected before the state `Connected` is entered. -/
def enter (be : Backend) (goal : XenbusState) (call : ConnectCall) : Except Fault Backend :=
  if goal = .connected then
    match backendConnect be call with
    | .error fault => .error fault
    | .ok be => .ok (backendSwitchState be .connected)
  else .ok be

def walked (be : Backend) (path : List XenbusState) : Backend :=
  path.foldl backendSwitchState be

@[simp] theorem state_backendSwitchState (be : Backend) (state : XenbusState) :
    (backendSwitchState be state).state = state := by
  unfold backendSwitchState xenbusSwitchState
  dsimp only
  split <;> rfl

theorem backendLoop_of_eq {be : Backend} {goal : XenbusState} (call : ConnectCall)
    (heq : be.state = goal) (fuel : Nat) : backendLoop goal call fuel be = .ok be := by
  cases fuel <;> exact if_pos heq

theorem backendLoop_of_round {be be' : Backend} {goal : XenbusState} {call : ConnectCall}
    (hne : be.state ≠ goal) (hround : backendRound be goal call = .ok be') (fuel : Nat) :
    backendLoop goal call (fuel + 1) be = backendLoop goal call fuel be' := by
  rw [backendLoop, if_neg hne, hround]

theorem backendLoop_enter {be : Backend} (call : ConnectCall) (hstate : be.state = .initWait)
    (fuel : Nat) : backendLoop .connected call (fuel + 1) be = enter be .connected call := by
  have hne : be.state ≠ .connected := by simp [hstate]
  rw [backendLoop, if_neg hne, enter, if_pos rfl]
  cases hconnect : backendConnect be call with
  | error fault =>
      have hround : backendRound be .connected call = .error fault := by
        simp [backendRound, hstate, hconnect]
      rw [hround]
  | ok be' =>
      have hround : backendRound be .connected call = .ok (backendSwitchState be' .connected) := by
        simp [backendRound, hstate, hconnect]
      rw [hround]
      exact backendLoop_of_eq call (state_backendSwitchState be' .connected) fuel

theorem setBackendState_eq {be : Backend} {goal : XenbusState} (call : ConnectCall)
    (hs : Live be.state) (hgoal : Live goal) :
    setBackendState be goal call =
      if be.state = goal then .ok be
      else enter (walked (leave be) (walk be.state goal)) goal call := by
  unfold setBackendState maxRounds leave walked
  generalize hstate : be.state = s at hs ⊢
  cases hs <;> cases hgoal
  case initWait.connected =>
    exact backendLoop_enter call hstate 2
  case closed.connected =>
    have hne : be.state ≠ .connected := by simp [hstate]
    have hround : backendRound be .connected call = .ok (backendSwitchState be .initWait) := by
      simp [backendRound, hstate]
    rw [backendLoop_of_round hne hround]
    exact backendLoop_enter call (state_backendSwitchState _ _) 1
  case closing.connected =>
    have hne : be.state ≠ .connected := by simp [hstate]
    have hround : backendRound be .connected call = .ok (backendSwitchState be .closed) := by
      simp [backendRound, hstate]
    have hround' : backendRound (backendSwitchState be .closed) .connected call =
        .ok (backendSwitchState (backendSwitchState be .closed) .initWait) := by
      simp [backendRound]
    rw [backendLoop_of_round hne hround, backendLoop_of_round (by simp) hround']
    exact backendLoop_enter call (state_backendSwitchState _ _) 0
  all_goals simp [backendLoop, backendRound, enter, walk, hstate]

end XenNet.NetbackStates
