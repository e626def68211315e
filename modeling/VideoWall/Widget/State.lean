import VideoWall.Cycle
import VideoWall.Time.Age

/-!
# The state of a wall

What a wall shows between two update cycles, and the two transitions of a cycle: its start and its
completion. The time to the next refresh grows from a minute, through a few seconds once, to half an
hour.
-/

namespace VideoWall.Widget

structure State where
  isFirstLoad : Bool
  contentAvailable : Bool
  /-- The time to the next refresh, in microseconds. -/
  refresh : Int
  items : List Item
  lastResult : Option CycleResult
deriving Repr, DecidableEq

namespace State

def ofSeconds (n : Int) : Int := n * 1000000

def initialRefresh : Int := ofSeconds 60

def firstLoadRefresh : Int := ofSeconds 3

def steadyRefresh : Int := ofSeconds 1800

def initial : State where
  isFirstLoad := true
  contentAvailable := false
  refresh := initialRefresh
  items := []
  lastResult := none

/-- Whether the start of a cycle changes the state. -/
def isUntouched (s : State) : Bool := s.isFirstLoad && !s.contentAvailable

def begun (s : State) : State :=
  if s.isUntouched then { s with isFirstLoad := false, refresh := firstLoadRefresh } else s

def completed (s : State) (r : CycleResult) : State :=
  { s with
    items := r.items
    contentAvailable := true
    refresh := steadyRefresh
    lastResult := some r }

def begin (s : State) : Logged State := do
  if s.isUntouched then Logged.say .firstLoad
  return s.begun

def complete (s : State) (r : CycleResult) : Logged State := do
  Logged.say .intervalExtended
  return s.completed r

/-- The whole seconds to the next refresh, the fraction dropped. -/
def refreshSeconds (s : State) : Int := Age.wholeSeconds s.refresh

end State

inductive UpdateError where
  | aborted (a : Abort)
  | alreadyRunning
deriving DecidableEq, Repr

/-- One update of a wall: the state that it publishes, or how it ended without one. -/
def update (env : Environment) (c : Cancellation) (s : Settings) (state : State) :
    Logged (Except UpdateError State) := do
  let pending ← state.begin
  match ← Cycle.run env c s with
  | .error a => return .error (.aborted a)
  | .ok result =>
    let published ← pending.complete result
    Logged.say (.contentAvailable published.items.length)
    return .ok published

end VideoWall.Widget
