import VideoWall.Proofs.Cycle.Boundary
import VideoWall.Proofs.Widget.Erasure

/-!
# Cancellation at the boundaries of a cycle

Whether a cycle ends as cancelled is decided where its pools start: one that is cancelled by then ends
so, and one that nobody cancels does not. Main statement: `cancellation_is_exact_at_boundaries`.
-/

namespace VideoWall

variable {env : Environment} {s : Settings} {c : Cancellation}

namespace Widget

/-! ## 1. Updates -/

theorem update_eq (env : Environment) (c : Cancellation) (s : Settings) (state : State) :
    update env c s state = (do
      let pending ← state.begin
      afterCycle pending (← Cycle.run env c s)) := rfl

theorem value_afterCycle_ne_cancelled (pending : State) {cycle : Except Abort CycleResult}
    (h : cycle ≠ .error .cancelled) :
    (afterCycle pending cycle).value ≠ .error (.aborted .cancelled) := by
  cases cycle with
  | ok result => nofun
  | error a =>
    intro heq
    obtain rfl := UpdateError.aborted.inj (Except.error.inj heq)
    exact h rfl

theorem EndsWith.value_ne_cancelled {state : State} {ended : Logged (Except UpdateError State)}
    (h : EndsWith env s false false state ended) : ended.value ≠ .error (.aborted .cancelled) := by
  obtain ⟨cycle, hcycle, rfl⟩ := h
  exact value_afterCycle_ne_cancelled _ hcycle.value_ne_cancelled

theorem value_update_ne_cancelled (hspares : ∀ p, c.Spares ((Cycle.order s p).job env).outcomes)
    (state : State) : (update env c s state).value ≠ .error (.aborted .cancelled) := by
  rw [update_eq]
  exact value_afterCycle_ne_cancelled _ (Cycle.value_run_ne_cancelled hspares)

end Widget

/-! ## 2. The boundaries -/

theorem Settings.exists_sources_iff (s : Settings) :
    (∃ p, s.sources p ≠ []) ↔ s.channels ≠ [] ∨ s.playlists ≠ [] ∨ s.rumbleChannels ≠ [] := by
  have hyoutube : s.sources .youtube ≠ [] ↔ s.channels ≠ [] ∨ s.playlists ≠ [] := by
    simp only [sources, ne_eq, List.append_eq_nil_iff, List.map_eq_nil_iff,
      Decidable.not_and_iff_not_or_not]
  constructor
  · rintro ⟨p, hp⟩
    cases p with
    | youtube => exact (hyoutube.mp hp).elim .inl fun h => .inr (.inl h)
    | rumble => exact .inr (.inr hp)
  · rintro (h | h | h)
    · exact ⟨.youtube, hyoutube.mpr (.inl h)⟩
    · exact ⟨.youtube, hyoutube.mpr (.inr h)⟩
    · exact ⟨.rumble, h⟩

/-- The channel has a video; the request for the named feed fails as if cancelled. -/
def cancelledPages (url : String) : Except Failure Feed.Facts :=
  if url = Source.feedUrl .youtube "UCa" false then .ok Widget.oneVideo
  else .error (.reported .cancelled cancelledText)

def cancelledFeeds : Environment :=
  .steady default (.ofPages cancelledPages)

theorem exists_firstFetch_with_video :
    ∃ f : Cycle.FirstFetch cancelledFeeds Widget.twoProviders false true,
      f.provider = .youtube ∧ f.gathered.items ≠ [] := by
  let o := Cycle.order Widget.twoProviders .youtube
  let answers := Cycle.answersOfPages cancelledPages Widget.twoProviders .youtube
  have hanswered : o.AnsweredBy cancelledFeeds.session answers :=
    Cycle.answeredBy_ofPages cancelledPages Widget.twoProviders .youtube
  obtain ⟨m, m', hrun, -, -, hleads, hcan, hs⟩ := Pool.exists_unseen_cancellation
    (Fetch.Order.outcomes_job hanswered) (List.cons_ne_nil _ _) (by decide) rfl
  have hvalue : (Fetch.afterPool cancelledFeeds.clock o (.ok (.ofResults (o.sources.map answers)))).value =
      o.ending (o.items cancelledFeeds answers) (Fetch.failures answers o.sources).length :=
    (Fetch.afterPool_of_answers o answers).1
  have hitems : o.items cancelledFeeds answers ≠ [] := by decide
  have hfailures : (Fetch.failures answers o.sources).length = 0 := by decide
  rw [hfailures, Fetch.Order.ending, if_neg hitems, if_pos rfl] at hvalue
  refine ⟨{
    provider := .youtube
    others := [.rumble]
    first := ⟨[], rfl, List.forall_mem_nil _⟩
    sources_ne := by decide
    fetched := _
    ends := ⟨_, ⟨m', hrun.trans hleads, hcan, hs⟩, rfl⟩
    gathered := { items := Item.sortByInstant (o.items cancelledFeeds answers) }
    completes := ?_ }, rfl, mt Item.sortByInstant_eq_nil.mp hitems⟩
  rw [pure_bind, hvalue]
  rfl

end VideoWall
