import VideoWall.Proofs.Cycle.Results
import VideoWall.Widget.Callers

/-!
# What a wall shows after any history

However many callers update a wall, and however their updates end, the wall shows its initial state or
what the last completed update published, and nothing between. Main statement:
`every_history_shows_last_result`.
-/

namespace VideoWall.Widget

variable {s : Settings} {es : List Event} {w w' : Shared} {e : Event}

/-! ## 1. Histories -/

def Event.published? : Event → Option CycleResult
  | publish _ r => some r
  | _ => none

def lastResult? (es : List Event) : Option CycleResult :=
  es.findSome? Event.published?

theorem lastResult?_cons (h : e.published? = none) (es : List Event) :
    lastResult? (e :: es) = lastResult? es := by
  rw [lastResult?, List.findSome?_cons, h]
  rfl

theorem publish_mem_of_lastResult? {r : CycleResult} (h : lastResult? es = some r) :
    ∃ c, Event.publish c r ∈ es := by
  obtain ⟨e, he, hpublished⟩ := List.exists_of_findSome?_eq_some h
  cases e with
  | publish c r' =>
    obtain rfl := Option.some.inj hpublished
    exact ⟨c, he⟩
  | enter c => cases hpublished
  | reject c => cases hpublished
  | read c => cases hpublished
  | fail c => cases hpublished
  | leave c => cases hpublished

theorem lastResult?_isSome : (lastResult? es).isSome = true ↔ ∃ c r, Event.publish c r ∈ es := by
  constructor
  · intro h
    obtain ⟨r, hr⟩ := Option.isSome_iff_exists.mp h
    obtain ⟨c, hc⟩ := publish_mem_of_lastResult? hr
    exact ⟨c, r, hc⟩
  · rintro ⟨c, r, hmem⟩
    exact List.findSome?_isSome_iff.mpr ⟨_, hmem, rfl⟩

theorem Leads.trans {a b c : Shared} {es' : List Event} (h : Leads s a es b)
    (h' : Leads s b es' c) : Leads s a (es' ++ es) c := by
  induction h' with
  | refl => exact h
  | tail _ hstep ih => exact .tail ih hstep

/-! ## 2. The state between two updates -/

def shown : Option CycleResult → State
  | none => .initial
  | some r =>
    { isFirstLoad := false
      contentAvailable := true
      refresh := State.steadyRefresh
      items := r.items
      lastResult := some r }

theorem completed_begun_shown (last : Option CycleResult) (r : CycleResult) :
    (shown last).begun.completed r = shown (some r) := by
  cases last with
  | none => rfl
  | some old => rfl

theorem contentAvailable_shown (last : Option CycleResult) :
    (shown last).contentAvailable = last.isSome := by
  cases last with
  | none => rfl
  | some r => rfl

theorem isFirstLoad_shown (last : Option CycleResult) :
    (shown last).isFirstLoad = !last.isSome := by
  cases last with
  | none => rfl
  | some r => rfl

theorem refresh_shown_ne (last : Option CycleResult) :
    (shown last).refresh ≠ State.firstLoadRefresh := by
  cases last with
  | none => decide
  | some r =>
    show State.steadyRefresh ≠ State.firstLoadRefresh
    decide

/-- Whether a wall is as a history leaves it. -/
structure Follows (s : Settings) (es : List Event) (w : Shared) : Prop where
  state : w.state = shown (lastResult? es)
  /-- A running update has read what the wall showed at some time. -/
  seen : ∀ c seen, w.phase c = .running seen → ∃ last, seen = shown last
  results : ∀ c r, Event.publish c r ∈ es → Cycle.CanComeTo s.withDefaults r

theorem follows_first (s : Settings) : Follows s [] .first where
  state := rfl
  seen c seen h := by cases h
  results c r h := absurd h List.not_mem_nil

theorem Follows.seen_move (h : Follows s es w) {caller : Nat} {p : Phase}
    (hp : ∀ seen, p = .running seen → seen = w.state) (c : Nat) (seen : State)
    (hseen : (w.move caller p).phase c = .running seen) : ∃ last, seen = shown last := by
  -- The caller that moves has just read the wall, if it has read anything; the others are where they
  -- were.
  by_cases hc : c = caller
  · rw [hc, Shared.phase_move_self] at hseen
    exact ⟨_, (hp seen hseen).trans h.state⟩
  · have hother : (w.move caller p).phase c = w.phase c := if_neg hc
    exact h.seen c seen (hother ▸ hseen)

theorem Follows.quiet (h : Follows s es w) (he : e.published? = none) (hstate : w'.state = w.state)
    (hseen : ∀ c seen, w'.phase c = .running seen → ∃ last, seen = shown last) :
    Follows s (e :: es) w' where
  state := by
    rw [lastResult?_cons he, hstate]
    exact h.state
  seen := hseen
  results c r hmem := by
    rcases List.mem_cons.mp hmem with rfl | hmem
    · cases he
    · exact h.results c r hmem

theorem Step.follows (hstep : Step s w e w') (h : Follows s es w) : Follows s (e :: es) w' := by
  cases hstep with
  | enter c _ _ => exact h.quiet rfl rfl (h.seen_move (by nofun))
  | reject c _ _ => exact h.quiet rfl rfl h.seen
  | read c _ =>
    refine h.quiet rfl rfl (h.seen_move ?_)
    intro seen heq
    exact (Phase.running.inj heq).symm
  | publish c seen r hrunning hcomes =>
    -- What the caller has read does not matter: its result replaces all of it. In particular the
    -- short time to the next refresh, which the start of the first cycle sets, is gone.
    obtain ⟨last, rfl⟩ := h.seen c seen hrunning
    refine ⟨completed_begun_shown last r, h.seen_move (by nofun), ?_⟩
    intro c' r' hmem
    rcases List.mem_cons.mp hmem with heq | hmem
    · obtain ⟨-, rfl⟩ := Event.publish.inj heq
      exact hcomes
    · exact h.results c' r' hmem
  | fail c _ => exact h.quiet rfl rfl (h.seen_move (by nofun))
  | leave c _ => exact h.quiet rfl rfl (h.seen_move (by nofun))

theorem Leads.follows (h : Leads s .first es w) : Follows s es w := by
  induction h with
  | refl => exact follows_first s
  | tail _ hstep ih => exact hstep.follows ih

/-! ## 3. The computed update -/

theorem State.value_begin (state : State) : state.begin.value = state.begun := by
  unfold begin
  split
  · rfl
  · rfl

theorem value_update (env : Environment) (c : Cancellation) (s : Settings) (state : State) :
    (update env c s state).value =
      match (Cycle.run env c s).value with
      | .ok r => .ok (state.begun.completed r)
      | .error a => .error (.aborted a) := by
  rw [update, Logged.value_bind, Logged.value_bind, State.value_begin]
  cases (Cycle.run env c s).value with
  | ok r => rfl
  | error a => rfl

/-! ## 4. What is shown -/

/-- After any history a wall shows its initial state, if no update has completed, or what the last
completed update published: its items, newest first and within the limit, and the long time to the next
refresh. So content is available if and only if an update has completed, and stays so; the first load
does not come back, and its short time to the next refresh is never shown. -/
theorem every_history_shows_last_result (s : Settings) {es : List Event} {w : Shared}
    (h : Leads s .first es w) :
    (lastResult? es = none ∧ w.state = .initial ∨
      ∃ r, lastResult? es = some r ∧ w.state.isFirstLoad = false ∧
        w.state.contentAvailable = true ∧ w.state.refresh = 30 * 60 * 1000000 ∧
        w.state.lastResult = some r ∧ w.state.items = r.items ∧
        (∀ i ∈ r.items, i.kind = .zoned) ∧
        (r.items.Pairwise fun a b => b.instant ≤ a.instant) ∧
        r.items.length ≤ Settings.effectiveLimit s.limit) ∧
    (w.state.contentAvailable = true ↔ ∃ c r, Event.publish c r ∈ es) ∧
    w.state.refresh ≠ 3 * 1000000 ∧
    ∀ es' w', Leads s w es' w' →
      (w.state.contentAvailable = true → w'.state.contentAvailable = true) ∧
      (w.state.isFirstLoad = false → w'.state.isFirstLoad = false) ∧
      w'.state.refresh ≠ 3 * 1000000 := by
  -- Everything is read off the state that the history leaves.
  have hw := h.follows
  refine ⟨?_, ?_, ?_, ?_⟩
  · cases hlast : lastResult? es with
    | none =>
      left
      refine ⟨rfl, ?_⟩
      rw [hw.state, hlast]
      rfl
    | some r =>
      right
      obtain ⟨c, hmem⟩ := publish_mem_of_lastResult? hlast
      have hfits := (hw.results c r hmem).fits
      have hstate : w.state = shown (some r) := by rw [hw.state, hlast]
      rw [hstate]
      refine ⟨r, rfl, rfl, rfl, rfl, rfl, rfl, hfits.zoned, hfits.ordered, ?_⟩
      rw [← s.effectiveLimit_withDefaults]
      exact hfits.length_le
  · rw [hw.state, contentAvailable_shown]
    exact lastResult?_isSome
  · rw [hw.state]
    exact refresh_shown_ne _
  · intro es' w' h'
    have hw' := (h.trans h').follows
    have hmono : (lastResult? es).isSome = true → (lastResult? (es' ++ es)).isSome = true := by
      intro hsome
      obtain ⟨c, r, hmem⟩ := lastResult?_isSome.mp hsome
      exact lastResult?_isSome.mpr ⟨c, r, List.mem_append_right _ hmem⟩
    rw [hw.state, hw'.state, contentAvailable_shown, contentAvailable_shown, isFirstLoad_shown,
      isFirstLoad_shown, Bool.not_eq_false', Bool.not_eq_false']
    exact ⟨hmono, hmono, refresh_shown_ne _⟩

def oneChannel : Settings :=
  { Settings.unset with channels := ["UCa"] }

def emptyPages (_ : String) : Except Failure Feed.Facts :=
  .ok { version := some "atom10" }

/-- An update fails, the next one completes, and another caller is turned away between. -/
theorem history_of_two_updates_shows_last_result :
    ∃ r w, Leads oneChannel .first [.leave 0, .publish 0 r, .reject 1, .read 0, .enter 0,
        .leave 0, .fail 0, .read 0, .enter 0] w ∧
      w.state.lastResult = some r ∧ w.state.items = r.items ∧ w.state.refresh = 1800000000 := by
  let env : Environment := .steady default (.ofPages emptyPages)
  let answers := Cycle.answersOfPages emptyPages oneChannel.withDefaults
  have hcomes : Cycle.CanComeTo oneChannel.withDefaults
      (Cycle.resultOf env oneChannel.withDefaults answers) := by
    have hanswers := Cycle.answeredBy_ofPages emptyPages oneChannel.withDefaults
    obtain ⟨ended, hended⟩ : ∃ ended, Cycle.EndsWith env _ false false ended :=
      Cycle.exists_endsWith hanswers
    exact ⟨env, .inl ⟨false, false, ended, hended,
      (Cycle.IsUncancelledEnd.answered hanswers (.inl hended)).1⟩⟩
  have h : Leads oneChannel .first [] _ := .refl _
  have h := h.tail (.enter _ 0 rfl rfl)
  have h := h.tail (.read _ 0 rfl)
  have h := h.tail (.fail _ 0 (.inr ⟨_, rfl⟩))
  have h := h.tail (.leave _ 0 rfl)
  have h := h.tail (.enter _ 0 rfl rfl)
  have h := h.tail (.read _ 0 rfl)
  have h := h.tail (.reject _ 1 rfl rfl)
  have h := h.tail (.publish _ 0 _ _ rfl hcomes)
  have h := h.tail (.leave _ 0 rfl)
  obtain ⟨⟨hnone, -⟩ | ⟨r, hlast, -, -, hrefresh, hresult, hitems, -⟩, -⟩ :=
    every_history_shows_last_result oneChannel h
  · cases hnone
  · obtain rfl := Option.some.inj hlast
    exact ⟨_, _, h, hresult, hitems, hrefresh⟩

end VideoWall.Widget
