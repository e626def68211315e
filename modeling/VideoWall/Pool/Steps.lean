import VideoWall.Pool

/-!
# Runs of the pool, step by step

The caller of a pool hands the inputs over, one after the other; workers take them up in their order
and finish them in any order. Once all are handed over, the caller looks whether the run is cancelled,
then waits, and each wait brings it some of the finished tasks, perhaps none. The run can be cancelled
at any moment.
-/

namespace VideoWall.Pool

variable {ε β : Type}

inductive Stage (ε β : Type) where
  /-- It looks at the number of workers and at the inputs. -/
  | entering
  /-- It hands the inputs over. -/
  | handing
  /-- It looks whether the run is cancelled or complete. -/
  | looking
  /-- It waits for tasks to finish. -/
  | waiting
  /-- It waits for all tasks that it handed over; then the run ends early. -/
  | closing (how : PoolStop)
  /-- Nothing; the run has ended. -/
  | ended (how : Logged (Except PoolStop (Returned ε β)))

/-- A moment of a run. The inputs are known by their places. -/
structure Moment (ε β : Type) where
  isCancelled : Bool
  handed : Nat
  /-- The inputs that wait for a worker, in order. -/
  queue : List Nat
  /-- The inputs that the task was given, in the order in which it was. -/
  given : List Nat
  finished : List Nat
  /-- The inputs that the caller still waits for. -/
  pending : List Nat
  known : Returned ε β
  stage : Stage ε β

namespace Stage

def isEnd : Stage ε β → Bool
  | ended _ => true
  | _ => false

end Stage

def Returned.learn (outcomes : List (TaskOutcome ε β)) (known : Returned ε β) (i : Nat) :
    Returned ε β :=
  match outcomes[i]?.bind result? with
  | some (.ok b) => { known with results := known.results.set i (some b) }
  | some (.error e) => { known with errors := known.errors.set i (some e) }
  | none => known

namespace Moment

def first (isCancelled : Bool) (inputs : Nat) : Moment ε β where
  isCancelled
  handed := 0
  queue := []
  given := []
  finished := []
  pending := List.range inputs
  known := ⟨List.replicate inputs none, List.replicate inputs none⟩
  stage := .entering

def busy (m : Moment ε β) : Nat :=
  m.given.length - m.finished.length

def stopped (m : Moment ε β) (how : Logged (Except PoolStop (Returned ε β))) : Moment ε β :=
  { m with stage := .ended how }

def recorded (m : Moment ε β) (outcomes : List (TaskOutcome ε β)) (arrived : List Nat) :
    Moment ε β :=
  { m with
    pending := m.pending.filter fun i => !arrived.contains i
    known := arrived.foldl (Returned.learn outcomes) m.known
    stage := .looking }

end Moment

/-- One step of a run of a job. -/
inductive Step (j : Job ε β) : Moment ε β → Moment ε β → Prop where
  /-- The caller sees that there are no workers. -/
  | refuseWorkers (m : Moment ε β) : m.stage = .entering → j.workers < 1 →
      Step j m (m.stopped (pure (.error (.fault (.notPositive j.workers)))))
  /-- The caller sees that there are no inputs. -/
  | returnEmpty (m : Moment ε β) : m.stage = .entering → 1 ≤ j.workers → j.outcomes = [] →
      Step j m (m.stopped (pure (.ok m.known)))
  | enter (m : Moment ε β) : m.stage = .entering → 1 ≤ j.workers → j.outcomes ≠ [] →
      Step j m { m with stage := .handing }
  /-- The caller hands the next input over. -/
  | hand (m : Moment ε β) : m.stage = .handing → m.handed < j.outcomes.length →
      (∀ r ∈ j.refusal, r.after ≠ m.handed) →
      Step j m { m with handed := m.handed + 1, queue := m.queue ++ [m.handed] }
  /-- The system refuses the next input. -/
  | refuse (m : Moment ε β) (r : Refusal) : m.stage = .handing → m.handed < j.outcomes.length →
      r ∈ j.refusal → r.after = m.handed →
      Step j m { m with stage := .closing (.fault (.cannotStart r.why)) }
  /-- All inputs have been handed over. -/
  | start (m : Moment ε β) : m.stage = .handing → m.handed = j.outcomes.length →
      Step j m { m with stage := .looking }
  /-- A free worker takes up the next input. -/
  | give (m : Moment ε β) (i : Nat) (rest : List Nat) : m.stage.isEnd = false →
      m.queue = i :: rest → m.busy < j.crew →
      Step j m { m with queue := rest, given := m.given ++ [i] }
  /-- A task comes back. -/
  | finish (m : Moment ε β) (i : Nat) (o : TaskOutcome ε β) : i ∈ m.given → i ∉ m.finished →
      j.outcomes[i]? = some o → isStuck o = false →
      Step j m { m with finished := i :: m.finished }
  /-- The run is cancelled, by a task or from outside. -/
  | cancel (m : Moment ε β) : Step j m { m with isCancelled := true }
  /-- The caller sees that nothing is pending. -/
  | complete (m : Moment ε β) : m.stage = .looking → m.pending = [] →
      Step j m (m.stopped (pure (.ok m.known)))
  /-- The caller sees that the run is cancelled while tasks are pending. -/
  | stop (m : Moment ε β) : m.stage = .looking → m.pending ≠ [] → m.isCancelled = true →
      Step j m (m.stopped (cancelWith m.pending.length))
  /-- The caller sees that tasks are pending and the run is not cancelled. -/
  | wait (m : Moment ε β) : m.stage = .looking → m.pending ≠ [] → m.isCancelled = false →
      Step j m { m with stage := .waiting }
  /-- A wait brings some tasks that came back, in any order, none of them by an interruption. -/
  | wake (m : Moment ε β) (arrived : List Nat) : m.stage = .waiting → arrived.Nodup →
      (∀ i ∈ arrived, i ∈ m.pending ∧ i ∈ m.finished) →
      (∀ i ∈ arrived, ∀ o, j.outcomes[i]? = some o → isInterruption o = false) →
      Step j m (m.recorded j.outcomes arrived)
  /-- A wait brings a task that was interrupted. -/
  | interrupt (m : Moment ε β) (i : Nat) (o : TaskOutcome ε β) : m.stage = .waiting →
      i ∈ m.pending → i ∈ m.finished → j.outcomes[i]? = some o → isInterruption o = true →
      Step j m { m with stage := .closing .interrupted }
  /-- All tasks that were handed over have come back after an early stop. -/
  | close (m : Moment ε β) (how : PoolStop) : m.stage = .closing how →
      (∀ i < m.handed, i ∈ m.finished) →
      Step j m (m.stopped (pure (.error how)))

/-- Whether one moment can lead to another in any number of steps. -/
inductive Leads (j : Job ε β) : Moment ε β → Moment ε β → Prop where
  | refl (m : Moment ε β) : Leads j m m
  | tail {a b c : Moment ε β} : Leads j a b → Step j b c → Leads j a c

/-- Whether a run of a job can end in a way, given whether it is cancelled at its start and whether it
is at its end. -/
def Job.EndsWith (j : Job ε β) (before after : Bool)
    (how : Logged (Except PoolStop (Returned ε β))) : Prop :=
  ∃ m : Moment ε β, Leads j (.first before j.outcomes.length) m ∧
    m.isCancelled = after ∧ m.stage = .ended how

theorem Step.isCancelled_mono {j : Job ε β} {a b : Moment ε β} (h : Step j a b)
    (ha : a.isCancelled = true) : b.isCancelled = true := by
  cases h <;> simp [Moment.stopped, Moment.recorded, ha]

end VideoWall.Pool
