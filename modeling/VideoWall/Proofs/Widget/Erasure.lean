import VideoWall.Proofs.Widget.History
import VideoWall.Proofs.Widget.Serial
import VideoWall.Widget.Output

/-!
# Failed updates leave no trace

An update that fails, and one that is turned away, leave the state of a wall as it was, and everything
that comes after them goes on as if they had not been. The state of a wall is a replay of the
publications in its history (`Leads.state_eq_replay`), and a failed update has none. Main statement:
`failed_updates_leave_no_trace`.
-/

namespace VideoWall.Widget

variable {s : Settings} {es : List Event} {w : Shared} {base : State}

/-! ## 1. Replaying a history -/

/-- What the publications of a history make of a state, the last event first. -/
def replay (base : State) : List Event → State
  | [] => base
  | .publish _ r :: es => (replay base es).begun.completed r
  | _ :: es => replay base es

theorem replay_append (es es' : List Event) :
    replay base (es' ++ es) = replay (replay base es) es' := by
  induction es' with
  | nil => rfl
  | cons e es' ih =>
    cases e with
    | publish c r => exact congrArg (fun state : State => state.begun.completed r) ih
    | _ => exact ih

theorem replay_admitted (es : List Event) : replay base (admitted es) = replay base es := by
  induction es with
  | nil => rfl
  | cons e es ih =>
    cases e with
    | publish c r => exact congrArg (fun state : State => state.begun.completed r) ih
    | _ => exact ih

theorem Leads.state_eq_replay {w₀ : Shared} (h : Leads s w₀ es w) (h₀ : w₀.IsIdle) :
    w.state = replay w₀.state es := by
  induction h with
  | refl => rfl
  | @tail w₁ w₂ es e hleads hstep ih =>
    cases e with
    | publish c r =>
      -- The published state starts from the present one, which the induction is about.
      obtain ⟨-, -, hstate, -⟩ := (hleads.inOrder h₀).of_publish hstep
      rw [hstate, ih]
      rfl
    | _ => exact (hstep.state_of_quiet (by nofun)).trans ih

/-! ## 2. Updates one after the other -/

theorem replay_opening (c : Nat) (hasRead : Bool) :
    replay base (Update.opening c hasRead) = base := by
  cases hasRead <;> rfl

theorem replay_events (u : Update s) : replay base u.events = u.applied base := by
  unfold Update.events Update.applied
  cases u.result? with
  | some r => rfl
  | none => exact replay_opening u.caller u.hasRead

theorem serial_cons (u : Update s) (us : List (Update s)) :
    serial (u :: us) = u.events ++ serial us :=
  List.flatMap_cons

theorem serial_singleton (u : Update s) : serial [u] = u.events :=
  List.append_nil _

theorem admitted_events (u : Update s) : admitted u.events = u.events := by
  unfold Update.events
  cases u.result? with
  | some r => rfl
  | none =>
    cases u.hasRead with
    | true => rfl
    | false => rfl

theorem replay_serial (us : List (Update s)) : replay base (serial us) = stateAfter base us := by
  induction us with
  | nil => rfl
  | cons u us ih =>
    rw [serial_cons, replay_append, ih, replay_events]
    rfl

theorem applied_of_not_succeeds {u : Update s} (h : u.succeeds = false) (state : State) :
    u.applied state = state := by
  have hresult : u.result? = none := Option.not_isSome_iff_eq_none.mp (Bool.eq_false_iff.mp h)
  rw [Update.applied, hresult]

theorem stateAfter_filter_succeeds (us : List (Update s)) :
    stateAfter base (us.filter Update.succeeds) = stateAfter base us := by
  induction us with
  | nil => rfl
  | cons u us ih =>
    show _ = u.applied (stateAfter base us)
    -- The rest is as if its failures were not there; it is the first update that counts.
    rw [← ih]
    cases h : u.succeeds with
    | true =>
      rw [List.filter_cons_of_pos h]
      rfl
    | false =>
      rw [List.filter_cons_of_neg (by rw [h]; exact Bool.false_ne_true), applied_of_not_succeeds h]

theorem stateAfter_of_all_fail {us : List (Update s)} (h : ∀ u ∈ us, u.succeeds = false) :
    stateAfter base us = base := by
  have hnone : us.filter Update.succeeds = [] := by
    apply List.filter_eq_nil_iff.mpr
    intro u hu
    rw [h u hu]
    exact Bool.false_ne_true
  rw [← stateAfter_filter_succeeds, hnone]
  rfl

theorem Shared.IsIdle.exists_leads_serial (hidle : w.IsIdle) (us : List (Update s)) :
    ∃ w', Leads s w (serial us) w' ∧ w'.IsIdle ∧ w'.state = stateAfter w.state us := by
  induction us with
  | nil => exact ⟨w, .refl w, hidle, rfl⟩
  | cons u us ih =>
    obtain ⟨w₁, hleads₁, hidle₁, hstate₁⟩ := ih
    obtain ⟨w₂, hleads₂, hidle₂, hstate₂⟩ := hidle₁.exists_leads u
    exact ⟨w₂, hleads₁.trans hleads₂, hidle₂, by rw [hstate₂, hstate₁]; rfl⟩

/-! ## 3. Histories without the failed updates -/

theorem InOrder.exists_serial (h : InOrder s base es w) (houtside : ∀ c, w.phase c = .outside) :
    ∃ us : List (Update s), admitted es = serial us := by
  cases h with
  | idle us hidle hes hstate => exact ⟨us, hes⟩
  | busy us c done hbusy =>
    -- Whoever has the lock would be inside.
    have hdone := hbusy.underway
    rw [houtside c] at hdone
    cases hdone

/-- What a wall shows is decided by the updates in its history that succeeded. -/
theorem Leads.state_eq_stateAfter (h : Leads s .first es w) {us : List (Update s)}
    (hes : admitted es = serial us) : w.state = stateAfter .initial (us.filter Update.succeeds) := by
  rw [h.state_eq_replay isIdle_first, ← replay_admitted, hes, replay_serial,
    stateAfter_filter_succeeds]
  rfl

/-- However an update fails, cancelled in the middle of its cycle or interrupted, and however many
callers are turned away meanwhile, the wall shows the same as before. The history without the failed
updates is a history too, in which each of the others meets what it met before; and whatever callers
are turned away in it, the wall shows the same after it, its time to the next refresh and its outputs
included. -/
theorem failed_updates_leave_no_trace (s : Settings) {es es' : List Event} {w w' : Shared}
    (h : Leads s .first es w) (h' : Leads s w es' w') :
    (∀ later : List (Update s), admitted es' = serial later →
      (∀ u ∈ later, u.result? = none) → w'.state = w.state) ∧
    ((∀ c, w.phase c = .outside) → ∃ us : List (Update s), admitted es = serial us) ∧
    ∀ us : List (Update s), admitted es = serial us →
      (∃ v, Leads s .first (serial (us.filter Update.succeeds)) v ∧ v.isLocked = false ∧
        ∀ c, v.phase c = .outside) ∧
      ∀ es'' v, Leads s .first es'' v → admitted es'' = serial (us.filter Update.succeeds) →
        v.state = w.state ∧ v.state.refresh = w.state.refresh ∧
        (∀ now o, v.state.html now o = w.state.html now o) ∧ v.state.json = w.state.json := by
  refine ⟨?_, (h.inOrder isIdle_first).exists_serial, ?_⟩
  · intro later hlater hfail
    have hnone : ∀ u ∈ later, u.succeeds = false := by
      intro u hu
      rw [Update.succeeds, hfail u hu]
      rfl
    -- Both states are replays from the start, and the second one goes on from the first.
    rw [(h.trans h').state_eq_replay isIdle_first, replay_append, ← h.state_eq_replay isIdle_first,
      ← replay_admitted es', hlater, replay_serial, stateAfter_of_all_fail hnone]
  · intro us hes
    obtain ⟨v, hleads, hidle, -⟩ := isIdle_first.exists_leads_serial (us.filter Update.succeeds)
    refine ⟨⟨v, hleads, hidle.unlocked, hidle.outside⟩, ?_⟩
    intro es'' v hv hes''
    -- Both histories come down to the updates that succeed, which are the same in both.
    have hstate : v.state = w.state := by
      rw [hv.state_eq_stateAfter hes'', h.state_eq_stateAfter hes, List.filter_filter]
      simp only [Bool.and_self]
    rw [hstate]
    exact ⟨rfl, rfl, fun _ _ => rfl, rfl⟩

def twoProviders : Settings :=
  { Settings.unset with channels := ["UCa"], rumbleChannels := ["r"] }

def oneVideo : Feed.Facts where
  version := some "atom10"
  entries := [{ title := some "Noon" }]

/-- The channel has a video; the request for the named feed has the update cancelled. -/
def cancelledLate : Environment :=
  .steady default fun url =>
    if url = Source.feedUrl .youtube "UCa" false then .page 200 "OK" (.facts oneVideo) else .cancels

theorem exists_items_cancelledLate : ∃ items, items ≠ [] ∧
    (Fetch.run cancelledLate .unset (Cycle.order twoProviders.withDefaults .youtube)).value =
      .ok items := by
  let o := Cycle.order twoProviders.withDefaults .youtube
  let answers : Fetch.Answers := fun _ => .ok (.ofFacts .youtube oneVideo)
  have hanswered : o.AnsweredBy cancelledLate.session answers := by
    intro source hsource
    rw [List.mem_singleton.mp hsource]
    rfl
  have hitems : o.items cancelledLate answers ≠ [] := by decide
  refine ⟨_, mt Item.sortByInstant_eq_nil.mp hitems, ?_⟩
  rw [(Fetch.Order.run_answered hanswered rfl).1]
  show o.ending (o.items cancelledLate answers) 0 = _
  rw [Fetch.Order.ending, if_neg hitems, if_pos rfl]

def Course.computed (env : Environment) (c : Cancellation) (after : Bool) : Course s where
  env
  before := c.isSet
  after
  ended := Cycle.run env c s.withDefaults
  possible := .inr ⟨c, rfl, rfl⟩

def cancelledUpdate : Update twoProviders :=
  .ran 0 (.computed cancelledLate .unset true)

def emptyUpdate : Update twoProviders :=
  .ran 0 (.computed (.steady default (.ofPages emptyPages)) .unset false)

/-- The first update is cancelled. After the second one, in which a caller is turned away, the wall
shows what the second one alone makes of it. -/
theorem cancelled_first_update_leaves_no_trace :
    (∃ items, items ≠ [] ∧
      (Fetch.run cancelledLate .unset (Cycle.order twoProviders.withDefaults .youtube)).value =
        .ok items) ∧
    (Cycle.run cancelledLate .unset twoProviders.withDefaults).value = .error .cancelled ∧
    ∃ r w w', emptyUpdate.result? = some r ∧
      Leads twoProviders .first cancelledUpdate.events w ∧ w.state = .initial ∧
      Leads twoProviders w [.leave 0, .publish 0 r, .reject 1, .read 0, .enter 0] w' ∧
      ∃ v, Leads twoProviders .first emptyUpdate.events v ∧ v.state = w'.state := by
  have hcancelled : (Cycle.run cancelledLate .unset twoProviders.withDefaults).value =
      .error .cancelled := rfl
  have hfailed : cancelledUpdate.result? = none := by
    show (Cycle.run cancelledLate .unset twoProviders.withDefaults).value.toOption = none
    rw [hcancelled]
    rfl
  obtain ⟨r, hkept⟩ : ∃ r, emptyUpdate.result? = some r := ⟨_, rfl⟩
  obtain ⟨w, h, hidle, -⟩ := isIdle_first.exists_leads cancelledUpdate
  have h' : Leads twoProviders w [] _ := .refl w
  have h' := h'.tail (.enter w 0 (hidle.outside 0) hidle.unlocked)
  have h' := h'.tail (.read _ 0 rfl)
  have h' := h'.tail (.reject _ 1 (hidle.outside 1) rfl)
  have h' := h'.tail (.publish _ 0 _ r rfl (canComeTo_of_result? hkept))
  have h' := h'.tail (.leave _ 0 rfl)
  have hkeep : [emptyUpdate, cancelledUpdate].filter Update.succeeds = [emptyUpdate] := by
    rw [List.filter_cons_of_pos (by rw [Update.succeeds, hkept]; rfl),
      List.filter_cons_of_neg (by rw [Update.succeeds, hfailed]; exact Bool.false_ne_true),
      List.filter_nil]
  have hboth : admitted ([.leave 0, .publish 0 r, .reject 1, .read 0, .enter 0] ++
      cancelledUpdate.events) = serial [emptyUpdate, cancelledUpdate] := by
    have hevents : emptyUpdate.events = [.leave 0, .publish 0 r, .read 0, .enter 0] := by
      rw [Update.events, hkept]
      rfl
    rw [serial_cons, serial_singleton, hevents, admitted, List.filter_append]
    exact congrArg _ (admitted_events cancelledUpdate)
  -- The first update is the whole of what comes after the start; then both are what came before.
  obtain ⟨hsame, -, -⟩ := failed_updates_leave_no_trace twoProviders (.refl .first) h
  obtain ⟨-, -, hwithout⟩ := failed_updates_leave_no_trace twoProviders (h.trans h') (.refl _)
  obtain ⟨⟨v, hv, -⟩, hshows⟩ := hwithout [emptyUpdate, cancelledUpdate] hboth
  rw [hkeep, serial_singleton] at hv hshows
  refine ⟨exists_items_cancelledLate, hcancelled, r, w, _, hkept, h, ?_, h', v, hv, ?_⟩
  · apply hsame [cancelledUpdate]
    · rw [admitted_events, serial_singleton]
    · intro u hu
      rw [List.mem_singleton.mp hu, hfailed]
  · exact (hshows _ v hv (admitted_events emptyUpdate)).1

end VideoWall.Widget
