import Mathlib.Data.List.Induction
import VideoWall.Proofs.Widget.History

/-!
# Transitions in any order

A cycle of a wall starts and completes, but whoever holds a state may take the two transitions in any
order: complete what never started, and start as often as they like. Whatever the order is, the time to
the next refresh says whether there is content and whether the first load is over, and only the very
first transition can be a start that changes anything. Main statement:
`every_order_keeps_flags_and_interval`.
-/

namespace VideoWall.Widget.State

/-! ## 1. Transitions -/

inductive Transition where
  | start
  | completion (r : CycleResult)
deriving DecidableEq, Repr

namespace Transition

def applied : Transition → State → State
  | start, s => s.begin.value
  | completion r, s => (s.complete r).value

def result? : Transition → Option CycleResult
  | start => none
  | completion r => some r

def isChangingStart (t : Transition) (s : State) : Bool :=
  t = start ∧ t.applied s ≠ s

end Transition

/-- The state that transitions lead to, the first of them first. -/
def after (s : State) (ts : List Transition) : State :=
  ts.foldl (fun s t => t.applied s) s

def latest? (ts : List Transition) : Option CycleResult :=
  ts.reverse.findSome? Transition.result?

/-- How many transitions are starts that change the state they find. -/
def changingStarts : State → List Transition → Nat
  | _, [] => 0
  | s, t :: ts => (t.isChangingStart s).toNat + changingStarts (t.applied s) ts

variable {s : State} {t : Transition} {ts : List Transition}

theorem after_append (s : State) (ts us : List Transition) : s.after (ts ++ us) = (s.after ts).after us :=
  List.foldl_append

theorem latest?_concat (ts : List Transition) (t : Transition) :
    latest? (ts ++ [t]) = t.result?.or (latest? ts) := by
  rw [latest?, List.reverse_append, List.reverse_singleton, List.singleton_append, List.findSome?_cons]
  cases t with
  | start => rfl
  | completion r => rfl

/-! ## 2. Starts -/

theorem begun_eq_self_iff : s.begun = s ↔ s.isUntouched = false := by
  unfold begun
  constructor
  · intro h
    by_cases huntouched : s.isUntouched = true
    · rw [if_pos huntouched] at h
      -- The flag of the first load would have to be down before.
      rw [← h]
      rfl
    · exact Bool.eq_false_iff.mpr huntouched
  · intro h
    rw [h, if_neg Bool.false_ne_true]

theorem Transition.isUntouched_applied (t : Transition) (s : State) :
    (t.applied s).isUntouched = false := by
  cases t with
  | start =>
    rw [applied, value_begin]
    by_cases h : s.isUntouched = true
    · rw [begun, if_pos h]
      rfl
    · rw [begun, if_neg h]
      exact Bool.eq_false_iff.mpr h
  | completion r => exact Bool.and_false _

theorem Transition.isChangingStart_eq_false (t : Transition) (h : s.isUntouched = false) :
    t.isChangingStart s = false := by
  rw [isChangingStart, decide_eq_false_iff_not]
  rintro ⟨rfl, hne⟩
  exact hne ((value_begin s).trans (begun_eq_self_iff.mpr h))

theorem changingStarts_of_touched (h : s.isUntouched = false) (ts : List Transition) :
    changingStarts s ts = 0 := by
  induction ts generalizing s with
  | nil => rfl
  | cons t ts ih => rw [changingStarts, t.isChangingStart_eq_false h, ih (t.isUntouched_applied s)]; rfl

theorem changingStarts_le_one (s : State) (ts : List Transition) : changingStarts s ts ≤ 1 := by
  cases ts with
  | nil => exact Nat.zero_le 1
  | cons t ts =>
    rw [changingStarts, changingStarts_of_touched (t.isUntouched_applied s)]
    exact Bool.toNat_le _

/-! ## 3. The states that are reached -/

/-- The state that transitions from the initial one lead to: whether the first of them is a start, and
the result that is completed last, decide all of it. -/
def reached (startsFirst : Bool) (last : Option CycleResult) : State where
  isFirstLoad := !startsFirst
  contentAvailable := last.isSome
  refresh :=
    if last.isSome then steadyRefresh else if startsFirst then firstLoadRefresh else initialRefresh
  items := last.elim [] CycleResult.items
  lastResult := last

def startsFirst (ts : List Transition) : Bool :=
  ts.head? = some .start

theorem begun_reached_of_none (first : Bool) : (reached first none).begun = reached true none := by
  cases first with
  | false => rfl
  | true => rfl

theorem begun_reached_of_some (first : Bool) (r : CycleResult) :
    (reached first (some r)).begun = reached first (some r) :=
  begun_eq_self_iff.mpr (Bool.and_false _)

theorem completed_reached (first : Bool) (last : Option CycleResult) (r : CycleResult) :
    (reached first last).completed r = reached first (some r) := rfl

theorem startsFirst_concat (hne : ts ≠ []) (t : Transition) : startsFirst (ts ++ [t]) = startsFirst ts := by
  obtain ⟨first, rest, rfl⟩ := List.exists_cons_of_ne_nil hne
  rfl

theorem startsFirst_of_latest?_eq_none (h : latest? ts = none) (hne : ts ≠ []) : startsFirst ts = true := by
  cases ts with
  | nil => exact absurd rfl hne
  | cons t ts =>
    cases t with
    | start => rfl
    | completion r =>
      have hresult := List.findSome?_eq_none_iff.mp h (.completion r) (by simp)
      cases hresult

theorem after_initial (ts : List Transition) : initial.after ts = reached (startsFirst ts) (latest? ts) := by
  induction ts using List.reverseRecOn with
  | nil => rfl
  | append_singleton ts t ih =>
    have hstep : initial.after (ts ++ [t]) = t.applied (reached (startsFirst ts) (latest? ts)) := by
      rw [after_append, ih]
      rfl
    rw [hstep, latest?_concat]
    cases t with
    | completion r =>
      -- A completion that comes first is no start; behind other transitions it leaves the first one.
      have hfirst : startsFirst (ts ++ [.completion r]) = startsFirst ts := by
        by_cases hne : ts = []
        · subst hne
          rfl
        · exact startsFirst_concat hne _
      rw [hfirst]
      exact completed_reached _ _ r
    | start =>
      rw [Transition.applied, value_begin, Transition.result?, Option.none_or]
      cases hlast : latest? ts with
      | none =>
        -- Nothing has been completed, so there were only starts, if anything.
        have hfirst : startsFirst (ts ++ [.start]) = true := by
          by_cases hne : ts = []
          · subst hne
            rfl
          · rw [startsFirst_concat hne, startsFirst_of_latest?_eq_none hlast hne]
        rw [hfirst, begun_reached_of_none]
      | some r =>
        have hne : ts ≠ [] := by
          rintro rfl
          cases hlast
        rw [startsFirst_concat hne, begun_reached_of_some]

theorem refresh_reached (first : Bool) (last : Option CycleResult) :
    ((reached first last).refresh = 30 * 60 * 1000000 ↔ last.isSome = true) ∧
    ((reached first last).refresh = 3 * 1000000 ↔ last.isSome = false ∧ (!first) = false) ∧
    ((reached first last).refresh = 60 * 1000000 ↔ last.isSome = false ∧ (!first) = true) := by
  cases last with
  | none => cases first <;> decide
  | some r => cases first <;> simp [reached, steadyRefresh, ofSeconds]

/-! ## 4. Flags only go one way -/

theorem Transition.contentAvailable_applied (t : Transition) (h : s.contentAvailable = true) :
    (t.applied s).contentAvailable = true := by
  cases t with
  | start =>
    have hself : s.begun = s := begun_eq_self_iff.mpr (by rw [isUntouched, h]; exact Bool.and_false _)
    rw [applied, value_begin, hself]
    exact h
  | completion r => rfl

theorem Transition.isFirstLoad_applied (t : Transition) (h : s.isFirstLoad = false) :
    (t.applied s).isFirstLoad = false := by
  cases t with
  | start =>
    have hself : s.begun = s := begun_eq_self_iff.mpr (by rw [isUntouched, h]; rfl)
    rw [applied, value_begin, hself]
    exact h
  | completion r => exact h

theorem contentAvailable_after (ts : List Transition) (h : s.contentAvailable = true) :
    (s.after ts).contentAvailable = true := by
  induction ts generalizing s with
  | nil => exact h
  | cons t ts ih => exact ih (t.contentAvailable_applied h)

theorem isFirstLoad_after (ts : List Transition) (h : s.isFirstLoad = false) :
    (s.after ts).isFirstLoad = false := by
  induction ts generalizing s with
  | nil => exact h
  | cons t ts ih => exact ih (t.isFirstLoad_applied h)

/-- Whatever transitions lead from the initial state to another one: the time to the next refresh is
half an hour if there is content, three seconds if there is none and the first load is over, and a minute
if there is none and it is not over; the items are those of the result that was completed last. At most
one start among them changes the state it finds, and a further start changes the state if and only if
nothing came before it. Content stays, and the first load does not come back. -/
theorem every_order_keeps_flags_and_interval (ts : List Transition) :
    ((initial.after ts).refresh = 30 * 60 * 1000000 ↔ (initial.after ts).contentAvailable = true) ∧
    ((initial.after ts).refresh = 3 * 1000000 ↔
      (initial.after ts).contentAvailable = false ∧ (initial.after ts).isFirstLoad = false) ∧
    ((initial.after ts).refresh = 60 * 1000000 ↔
      (initial.after ts).contentAvailable = false ∧ (initial.after ts).isFirstLoad = true) ∧
    (initial.after ts).lastResult = latest? ts ∧
    (initial.after ts).items = (latest? ts).elim [] CycleResult.items ∧
    changingStarts initial ts ≤ 1 ∧
    ((initial.after ts).begin.value = initial.after ts ↔ ts ≠ []) ∧
    ∀ more,
      ((initial.after ts).contentAvailable = true →
        (initial.after (ts ++ more)).contentAvailable = true) ∧
      ((initial.after ts).isFirstLoad = false → (initial.after (ts ++ more)).isFirstLoad = false) := by
  have hreached := after_initial ts
  obtain ⟨hsteady, hshort, hminute⟩ := refresh_reached (startsFirst ts) (latest? ts)
  refine ⟨?_, ?_, ?_, ?_, ?_, changingStarts_le_one initial ts, ?_, ?_⟩
  · rw [hreached]
    exact hsteady
  · rw [hreached]
    exact hshort
  · rw [hreached]
    exact hminute
  · rw [hreached]
    rfl
  · rw [hreached]
    rfl
  · rw [value_begin, begun_eq_self_iff]
    constructor
    · rintro huntouched rfl
      cases huntouched
    · intro hne
      -- The last of the transitions has happened to the state.
      obtain ⟨before, t, rfl⟩ := List.eq_nil_or_concat ts |>.resolve_left hne
      rw [List.concat_eq_append, after_append]
      exact t.isUntouched_applied _
  · intro more
    rw [after_append]
    exact ⟨contentAvailable_after more, isFirstLoad_after more⟩

/-- A cycle that completes without a start leaves the flag of the first load up for good. -/
example (r : CycleResult) : (initial.after [.completion r, .start, .start]).isFirstLoad = true := rfl

end VideoWall.Widget.State
