import VideoWall.Cycle.Steps
import VideoWall.Widget.State

/-!
# Callers of a wall

Any number of callers update one wall. An update takes the lock of the wall without waiting for it, or
is turned away; it reads the state, runs a cycle, and publishes the result or fails, and at last it
gives the lock back. The steps of different callers stand in any order.
-/

namespace VideoWall.Widget

inductive Phase where
  | outside
  /-- It has the lock. -/
  | entered
  /-- It runs a cycle from the state that it has read. -/
  | running (seen : State)
  | leaving
deriving DecidableEq, Repr

/-- A wall with its callers, who are known by numbers. -/
structure Shared where
  state : State
  isLocked : Bool
  phase : Nat → Phase

namespace Shared

def first : Shared where
  state := .initial
  isLocked := false
  phase _ := .outside

def move (w : Shared) (caller : Nat) (p : Phase) : Shared :=
  { w with phase := fun c => if c = caller then p else w.phase c }

end Shared

inductive Event where
  /-- A caller takes the lock. -/
  | enter (caller : Nat)
  | reject (caller : Nat)
  | read (caller : Nat)
  | publish (caller : Nat) (result : CycleResult)
  | fail (caller : Nat)
  /-- A caller gives the lock back. -/
  | leave (caller : Nat)
deriving DecidableEq, Repr

def Event.caller : Event → Nat
  | enter c | reject c | read c | publish c _ | fail c | leave c => c

/-- One event on a wall with given settings. -/
inductive Step (s : Settings) : Shared → Event → Shared → Prop where
  | enter (w : Shared) (c : Nat) : w.phase c = .outside → w.isLocked = false →
      Step s w (.enter c) { w.move c .entered with isLocked := true }
  | reject (w : Shared) (c : Nat) : w.phase c = .outside → w.isLocked = true →
      Step s w (.reject c) w
  | read (w : Shared) (c : Nat) : w.phase c = .entered →
      Step s w (.read c) (w.move c (.running w.state))
  /-- A cycle comes to a result under the settings with their defaults. -/
  | publish (w : Shared) (c : Nat) (seen : State) (r : CycleResult) : w.phase c = .running seen →
      Cycle.CanComeTo s.withDefaults r →
      Step s w (.publish c r) { w.move c .leaving with state := seen.begun.completed r }
  /-- An update can fail before it has read the state, and during its cycle. -/
  | fail (w : Shared) (c : Nat) : (w.phase c = .entered ∨ ∃ seen, w.phase c = .running seen) →
      Step s w (.fail c) (w.move c .leaving)
  | leave (w : Shared) (c : Nat) : w.phase c = .leaving →
      Step s w (.leave c) { w.move c .outside with isLocked := false }

/-- Whether a list of events, the last one first, leads from one wall to another. -/
inductive Leads (s : Settings) : Shared → List Event → Shared → Prop where
  | refl (w : Shared) : Leads s w [] w
  | tail {a b c : Shared} {es : List Event} {e : Event} : Leads s a es b → Step s b e c →
      Leads s a (e :: es) c

@[simp] theorem Shared.phase_move_self (w : Shared) (c : Nat) (p : Phase) :
    (w.move c p).phase c = p := by
  simp [Shared.move]

@[simp] theorem Shared.state_move (w : Shared) (c : Nat) (p : Phase) :
    (w.move c p).state = w.state := rfl

end VideoWall.Widget
