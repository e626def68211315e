import VideoWall.Widget.Callers

/-!
# Whole updates

A history of a wall, seen from the updates that it is made of. An update that is not turned away takes
the lock, reads the state, publishes a result or fails, and gives the lock back. It comes with all that
it met, so that histories can be compared of which one lacks some updates of the other.
-/

namespace VideoWall.Widget

def afterCycle (pending : State) : Except Abort CycleResult → Logged (Except UpdateError State)
  | .error a => return .error (.aborted a)
  | .ok result => do
    let published ← pending.complete result
    Logged.say (.contentAvailable published.items.length)
    return .ok published

/-- Whether an update that finds a state can come to something, over all runs of its pools, given whether
it is cancelled at the start and at the end of its cycle. -/
def EndsWith (env : Environment) (s : Settings) (before after : Bool) (state : State)
    (ended : Logged (Except UpdateError State)) : Prop :=
  ∃ cycle, Cycle.EndsWith env s.withDefaults before after cycle ∧ ended = (do
    let pending ← state.begin
    afterCycle pending (← cycle))

/-- A cycle under given settings as it went: what it met, whether it was cancelled at its start and at
its end, and what it came to. -/
structure Course (s : Settings) where
  env : Environment
  before : Bool
  after : Bool
  ended : Logged (Except Abort CycleResult)
  possible : Cycle.EndsWith env s.withDefaults before after ended ∨
    ∃ c : Cancellation, c.isSet = before ∧ ended = Cycle.run env c s.withDefaults

/-- An update from the moment when its caller has the lock. -/
inductive Update (s : Settings) where
  /-- Its cycle ended: with a result, or cancelled, or interrupted. -/
  | ran (caller : Nat) (course : Course s)
  /-- Anything else failed, such as a timer that cannot be started, before or after the state was
  read. -/
  | broke (caller : Nat) (hasRead : Bool)

namespace Update

variable {s : Settings}

def caller : Update s → Nat
  | ran c _ | broke c _ => c

def result? : Update s → Option CycleResult
  | ran _ course => course.ended.value.toOption
  | broke _ _ => none

def succeeds (u : Update s) : Bool := u.result?.isSome

def hasRead : Update s → Bool
  | ran _ _ => true
  | broke _ h => h

/-- What a caller does from taking the lock up to reading the state, the last event first. -/
def opening (c : Nat) (hasRead : Bool) : List Event :=
  if hasRead then [.read c, .enter c] else [.enter c]

/-- The events of an update, the last one first. -/
def events (u : Update s) : List Event :=
  match u.result? with
  | some r => [.leave u.caller, .publish u.caller r] ++ opening u.caller true
  | none => [.leave u.caller, .fail u.caller] ++ opening u.caller u.hasRead

def applied (u : Update s) (state : State) : State :=
  match u.result? with
  | some r => state.begun.completed r
  | none => state

end Update

/-- What a wall shows after some updates of a state, the last update first. -/
def stateAfter {s : Settings} (base : State) : List (Update s) → State
  | [] => base
  | u :: us => u.applied (stateAfter base us)

/-- The history of some updates without anything between, the last update first. -/
def serial {s : Settings} (us : List (Update s)) : List Event :=
  us.flatMap Update.events

def Event.isRejection : Event → Bool
  | reject _ => true
  | _ => false

/-- A history without the callers that were turned away. -/
def admitted (es : List Event) : List Event :=
  es.filter fun e => !e.isRejection

end VideoWall.Widget
