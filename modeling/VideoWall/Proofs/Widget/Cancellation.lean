import VideoWall.Proofs.Pool.Cancellation
import VideoWall.Proofs.Widget.History

/-!
# When a cancelled update is cancelled

A pool looks at the cancellation before each of its waits. An update that is cancelled while a task is
unfinished publishes nothing, unless the pool is in a wait at that moment: then the wait may bring all
that is left, and the update publishes its result. Main statement:
`every_run_sees_cancellation_before_waits`; `cancelled_update_publishes` is an update that is cancelled in
its last wait.
-/

namespace VideoWall

open Pool in
/-- A run of a pool that is cancelled while some task is unfinished comes to an end. If the caller is
not in a wait at that moment, the run ends as cancelled, however its steps interleave; and a cycle whose
pool ends so is cancelled with nothing to publish. If the caller is in a wait, the run ends as cancelled
or it returns, and it can return if and only if all that the caller waits for comes back. -/
theorem Pool.every_run_sees_cancellation_before_waits {ε β : Type} (j : Job ε β)
    (hworkers : 1 ≤ j.workers) (hstart : j.refusal? = none)
    (hplain : ∀ o ∈ j.outcomes, isInterruption o = false) {before : Bool} {m : Moment ε β}
    (hrun : Leads j (.first before j.outcomes.length) m) (hcancel : m.isCancelled = true) {i : Nat}
    (hi : i < j.outcomes.length) (hunfinished : i ∉ m.finished) :
    CanEnd j m ∧
    (m.stage ≠ .waiting → ∀ m' how, Leads j m m' → m'.stage = .ended how →
      ∃ left, how = cancelWith left) ∧
    (m.stage = .waiting →
      (∀ m' how, Leads j m m' → m'.stage = .ended how →
        (∃ left, how = cancelWith left) ∨ ∃ returned, how = pure (.ok returned)) ∧
      ((∃ m' returned, Leads j m m' ∧ m'.stage = .ended (pure (.ok returned))) ↔
        ∀ k ∈ m.pending, ∃ r, j.outcomes[k]? = some (.done r))) ∧
    ∀ (env : Environment) (s : Settings) (p : Provider) (g : Cycle.Gathered) (left : Nat),
      (cancelWith left >>= Fetch.afterPool env.clock (Cycle.order s p) >>= g.absorb p).value =
        .error .cancelled := by
  have hm : Consistent j m := hrun.consistent (consistent_first j before)
  refine ⟨hm.canEnd_of_cancelled hworkers hstart hplain hcancel, ?_, ?_, ?_⟩
  · intro hwait m' how hleads hs
    have hbound := hm.isBoundToStop hworkers hstart hplain hcancel hi hunfinished hwait
    exact (hleads.isBoundToStop hworkers hstart hm hbound).eq_cancelWith hs
  · intro hwait
    refine ⟨?_, hm.exists_return_iff hwait hplain⟩
    intro m' how hleads hs
    have hstage := (hleads.consistent hm).stage
    rw [hs] at hstage
    -- A run stops by a task, as cancelled, or with a return; these tasks stop no run.
    rcases hstage with ⟨stop, -, hcauses⟩ | ⟨-, hleft⟩ | ⟨hreturned, -⟩
    · exact absurd hcauses (Job.not_causes hworkers hstart hplain)
    · exact .inl hleft
    · exact .inr ⟨_, hreturned⟩
  · intro env s p g left
    rfl

/-- A run that is cancelled while the inputs are handed over. -/
theorem Pool.run_sees_early_cancellation :
    ∃ m : Pool.Moment String Nat,
      Pool.Leads (.ofTask 1 (fun n => .ok (10 * n)) [7, 3]) (.first false 2) m ∧
      m.isCancelled = true ∧ m.finished = [] ∧
      ∀ m' how, Pool.Leads (.ofTask 1 (fun n => .ok (10 * n)) [7, 3]) m m' →
        m'.stage = .ended how → ∃ left, how = Pool.cancelWith left := by
  let j : Pool.Job String Nat := .ofTask 1 (fun n => .ok (10 * n)) [7, 3]
  have h : Pool.Leads j (.first false 2) _ := .refl _
  have h := h.tail (.enter _ rfl (by decide) (by nofun))
  have h := h.tail (.hand _ rfl (by decide) (by nofun))
  have h := h.tail (.cancel _)
  have hplain : ∀ o ∈ j.outcomes, Pool.isInterruption o = false := by decide
  have hfirst : 0 < j.outcomes.length := by decide
  obtain ⟨-, hstops, -⟩ := Pool.every_run_sees_cancellation_before_waits j (by decide) rfl hplain
    h rfl hfirst (by nofun)
  exact ⟨_, h, rfl, rfl, hstops (by nofun)⟩

namespace Widget

def emptyFeeds : Environment :=
  .steady default (.ofPages emptyPages)

def oneFetch : Fetch.Order :=
  Cycle.order oneChannel.withDefaults .youtube

def emptyReturn : Pool.Returned Failure Feed.Document :=
  .ofResults [Cycle.answersOfPages emptyPages oneChannel.withDefaults .youtube "UCa"]

theorem exists_unseen_fetch :
    ∃ m m', Pool.Leads (oneFetch.job emptyFeeds) (.first false 1) m ∧ m.isCancelled = true ∧
      m.finished = [] ∧ Pool.Leads (oneFetch.job emptyFeeds) m m' ∧ m'.isCancelled = true ∧
      m'.stage = .ended (pure (.ok emptyReturn)) := by
  have hanswered : oneFetch.AnsweredBy emptyFeeds.session
      (Cycle.answersOfPages emptyPages oneChannel.withDefaults .youtube) :=
    Cycle.answeredBy_ofPages emptyPages oneChannel.withDefaults .youtube
  exact Pool.exists_unseen_cancellation (Fetch.Order.outcomes_job hanswered) (by nofun) (by decide) rfl

def refusedJob : Pool.Job String Nat where
  workers := 2
  refusal := some ⟨1, PoolFault.startText⟩
  outcomes := [.done (.ok 1), .done (.ok 2)]

/-- A run that is cancelled from the start ends without seeing it: the system refuses a task before the
first look. -/
theorem exists_refused_run :
    ∃ m : Pool.Moment String Nat, Pool.Leads refusedJob (.first true 2) m ∧ m.finished = [0] ∧
      m.stage = .ended (pure (.error (.fault (.cannotStart PoolFault.startText)))) := by
  have h : Pool.Leads refusedJob (.first true 2) _ := .refl _
  have h := h.tail (.enter _ rfl (by decide) (by nofun))
  have h := h.tail (.hand _ rfl (by decide) (by decide))
  have h := h.tail (.give _ 0 [] rfl rfl (by decide))
  have h := h.tail (.refuse _ _ rfl (by decide) rfl rfl)
  have h := h.tail (.finish _ 0 (.done (.ok 1)) (by decide) (by decide) rfl rfl)
  have h := h.tail (.close _ _ rfl (by decide))
  exact ⟨_, h, rfl, rfl⟩

/-- Two ways in which a run that is cancelled before all tasks have come back does not end as cancelled.
The system refuses a task. Or the run is cancelled in a wait that brings all that is left; so an update
that is cancelled while its only request is under way publishes what the request brings. -/
theorem cancelled_update_publishes :
    (∃ m : Pool.Moment String Nat, Pool.Leads refusedJob (.first true 2) m ∧ m.finished = [0] ∧
      m.stage = .ended (pure (.error (.fault (.cannotStart PoolFault.startText))))) ∧
    (∃ m m' : Pool.Moment String Nat,
      Pool.Leads (.ofTask 1 (fun n => .ok (10 * n)) [7]) (.first false 1) m ∧
      m.isCancelled = true ∧ m.finished = [] ∧
      Pool.Leads (.ofTask 1 (fun n => .ok (10 * n)) [7]) m m' ∧
      m'.stage = .ended (pure (.ok ⟨[some 70], [none]⟩))) ∧
    ∃ m m' g result w, Pool.Leads (oneFetch.job emptyFeeds) (.first false 1) m ∧
      m.isCancelled = true ∧ m.finished = [] ∧ Pool.Leads (oneFetch.job emptyFeeds) m m' ∧
      m'.stage = .ended (pure (.ok emptyReturn)) ∧
      (Fetch.afterPool emptyFeeds.clock oneFetch (.ok emptyReturn) >>=
        ({} : Cycle.Gathered).absorb .youtube).value = .ok g ∧
      (Cycle.finish oneChannel.withDefaults g).value = .ok result ∧
      Leads oneChannel .first [.leave 0, .publish 0 result, .read 0, .enter 0] w ∧
      w.state.lastResult = some result := by
  refine ⟨exists_refused_run, ?_, ?_⟩
  · have hj : (Pool.Job.ofTask 1 (fun n : Nat => (.ok (10 * n) : Except String Nat)) [7]).outcomes =
        [.ok 70].map .done := rfl
    obtain ⟨m, m', hrun, hcan, hfinished, hleads, -, hs⟩ :=
      Pool.exists_unseen_cancellation hj (by nofun) (by decide) rfl
    exact ⟨m, m', hrun, hcan, hfinished, hleads, hs⟩
  · obtain ⟨m, m', hrun, hcan, hfinished, hleads, hcan', hs⟩ := exists_unseen_fetch
    have hends : oneFetch.EndsWith emptyFeeds false true _ :=
      ⟨_, ⟨m', hrun.trans hleads, hcan', hs⟩, rfl⟩
    obtain ⟨g, result, hg, hresult⟩ : ∃ g result,
        (Fetch.afterPool emptyFeeds.clock oneFetch (.ok emptyReturn) >>=
          ({} : Cycle.Gathered).absorb .youtube).value = .ok g ∧
        (Cycle.finish oneChannel.withDefaults g).value = .ok result := ⟨_, _, rfl, rfl⟩
    -- The other provider has no sources, so the cycle is this one fetch.
    have hcycle : Cycle.EndsWith emptyFeeds oneChannel.withDefaults false true _ :=
      ⟨_, .next (by decide) hends hg (.skip rfl (.done g id)), rfl⟩
    have hcomes : Cycle.CanComeTo oneChannel.withDefaults result :=
      ⟨emptyFeeds, .inl ⟨false, true, _, hcycle, hresult⟩⟩
    have h : Leads oneChannel .first [] _ := .refl _
    have h := h.tail (.enter _ 0 rfl rfl)
    have h := h.tail (.read _ 0 rfl)
    have h := h.tail (.publish _ 0 _ result rfl hcomes)
    have h := h.tail (.leave _ 0 rfl)
    exact ⟨m, m', g, result, _, hrun, hcan, hfinished, hleads, hs, hg, hresult, h, rfl⟩

end Widget

end VideoWall
