import VideoWall.Notice

/-!
# The pool

A pool gives every input of a list to a task, on a bounded number of workers. This module says how a
run of the pool ends: with the outcome of every task in the order of the inputs, or early. How the
workers interleave is said by `VideoWall.Pool.Steps`; the end does not depend on it.
-/

namespace VideoWall

inductive TaskOutcome (ε β : Type) where
  | done (result : Except ε β)
  /-- It is interrupted from the keyboard. -/
  | interrupted
  /-- It does not come back. -/
  | stalls
  /-- It asks for the cancellation of the whole run and does not come back. -/
  | cancels

/-- How a run can be cancelled from outside. -/
structure Cancellation where
  /-- It is cancelled before it starts. -/
  isSet : Bool
  /-- A task can ask for it. -/
  isReachable : Bool
  /-- It comes by itself if the run takes too long. -/
  isTimed : Bool
deriving DecidableEq, Repr

namespace Cancellation

/-- A run that nobody cancels, though a task could. -/
def unset : Cancellation := ⟨false, true, false⟩

def preset : Cancellation := ⟨true, true, false⟩

def absent : Cancellation := ⟨false, false, false⟩

end Cancellation

inductive PoolStop where
  | fault (f : PoolFault)
  | cancelled
  | interrupted
  /-- Some task does not come back and nothing cancels the run. -/
  | endless
deriving DecidableEq, Repr

namespace Pool

variable {ε β : Type}

def isStuck : TaskOutcome ε β → Bool
  | .stalls | .cancels => true
  | .done _ | .interrupted => false

def asksToCancel : TaskOutcome ε β → Bool
  | .cancels => true
  | _ => false

def isInterruption : TaskOutcome ε β → Bool
  | .interrupted => true
  | _ => false

def result? : TaskOutcome ε β → Option (Except ε β)
  | .done r => some r
  | _ => none

def error? : Except ε β → Option ε
  | .error e => some e
  | .ok _ => none

/-- What a pool gives back: two lists in the order of the inputs. -/
structure Returned (ε β : Type) where
  results : List (Option β)
  errors : List (Option ε)
deriving DecidableEq, Repr

def Returned.ofResults (rs : List (Except ε β)) : Returned ε β where
  results := rs.map Except.toOption
  errors := rs.map error?

structure Refusal where
  /-- How many tasks are taken before. -/
  after : Nat
  why : String
deriving DecidableEq, Repr

/-- What a pool is to do. -/
structure Job (ε β : Type) where
  /-- The greatest number of workers. -/
  workers : Int
  refusal : Option Refusal
  /-- What the task does with the inputs, in order. -/
  outcomes : List (TaskOutcome ε β)

namespace Job

/-- The number of workers that a job has: no more than it has inputs. -/
def crew (j : Job ε β) : Nat :=
  min j.workers.toNat j.outcomes.length

def refusal? (j : Job ε β) : Option Refusal :=
  j.refusal.filter (·.after < j.outcomes.length)

end Job

/-- How many tasks are left when every free worker has come to a stuck task: the stuck ones, and all
behind the last worker's. -/
def leftWhenStuck : (workers : Nat) → List (TaskOutcome ε β) → Nat
  | _, [] => 0
  | 0, outcomes => outcomes.length
  | w + 1, o :: outcomes =>
    if isStuck o then 1 + leftWhenStuck w outcomes else leftWhenStuck (w + 1) outcomes

def cancelWith (left : Nat) : Logged (Except PoolStop (Returned ε β)) := do
  Logged.say (.poolCancelled left)
  return .error .cancelled

def runStarted (j : Job ε β) (c : Cancellation) : Logged (Except PoolStop (Returned ε β)) :=
  if c.isSet || (c.isReachable && j.outcomes.any asksToCancel) then cancelWith j.outcomes.length
  else if j.outcomes.any isStuck then
    if c.isTimed then cancelWith (leftWhenStuck j.crew j.outcomes) else pure (.error .endless)
  else if j.outcomes.any isInterruption then pure (.error .interrupted)
  else pure (.ok (.ofResults (j.outcomes.filterMap result?)))

/-- Runs a job. A refused task ends the run once the tasks before it have come back. -/
def run (j : Job ε β) (c : Cancellation) : Logged (Except PoolStop (Returned ε β)) :=
  if j.workers < 1 then pure (.error (.fault (.notPositive j.workers)))
  else if j.outcomes.isEmpty then pure (.ok ⟨[], []⟩)
  else match j.refusal? with
    | some r =>
      if (j.outcomes.take r.after).any isStuck then pure (.error .endless)
      else pure (.error (.fault (.cannotStart r.why)))
    | none => runStarted j c

end Pool

end VideoWall
