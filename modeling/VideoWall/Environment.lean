import VideoWall.Feed.Page
import VideoWall.Pool
import VideoWall.Time.Stamp

/-!
# The environment of a cycle

What an update cycle meets outside the program: the answers to its requests, the clock, and whether
the system takes the tasks of its pools.
-/

namespace VideoWall

inductive Reply where
  | failure (f : Failure)
  | page (status : Int) (reason : String) (body : Feed.Body)
  | interrupted
  /-- Nothing comes back. -/
  | stalls
  /-- Nothing comes back, but the running update is to be cancelled. -/
  | cancels
  /-- The request asks the widget for an update while it is in one. -/
  | reenters

/-- A session answers each address with a reply. How long a request may take is settled in the session: the
settings name the seconds, but nothing here passes them on, and a reply that is late is a failure. -/
abbrev Session := String → Reply

/-- A clock that shows universal time. It may go on while a cycle runs. -/
structure Clock where
  /-- What it shows at an entry of a source of a provider, both known by their places. -/
  reading : Provider → (source entry : Nat) → Stamp
  offset_reading : ∀ p i j, (reading p i j).offset = some .utc

def Clock.stopped (t : Stamp) : Clock where
  reading _ _ _ := { t with offset := some .utc }
  offset_reading _ _ _ := rfl

/-- What an update cycle meets outside the program. -/
structure Environment where
  session : Session
  clock : Clock
  /-- Which task of the pool of a provider the system refuses, if any. -/
  refusal : Provider → Option Pool.Refusal

/-- An environment in which the clock stands still and every task is taken. -/
def Environment.steady (now : Stamp) (session : Session) : Environment where
  session
  clock := .stopped now
  refusal _ := none

end VideoWall
