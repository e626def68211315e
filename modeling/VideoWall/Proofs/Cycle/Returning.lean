import VideoWall.Proofs.Cycle.Boundary
import VideoWall.Proofs.Cycle.Survival

/-!
# Cycles that come to a result

A cycle that nobody cancels comes to no result if it is interrupted or waits for a request that never
comes back. If it comes to one, though, this is the one that its answers amount to: a pool gives back the
answers of all sources, or it cannot be started. Main statement: `IsUncancelledEnd.eq_resultOf`.
-/

namespace VideoWall

/-! ## 1. Pools -/

namespace Pool

variable {ε β : Type} {j : Job ε β} {how : Logged (Except PoolStop (Returned ε β))}

/-- Whether something is an end of a run that nobody cancels: of some run of the workers, or the computed
one. -/
def Job.IsUncancelledEnd (j : Job ε β) (how : Logged (Except PoolStop (Returned ε β))) : Prop :=
  j.EndsWith false false how ∨ ∃ c : Cancellation, c.isSet = false ∧ how = run j c

/-- Whether a run ends in a way that its job accounts for: all its tasks have come back, or its pool
cannot be started, or it stops early for another reason. -/
inductive Job.Allows (j : Job ε β) : Except PoolStop (Returned ε β) → Prop where
  | returned (known : Returned ε β) : (∀ o ∈ j.outcomes, ∃ r, o = .done r) → j.Allows (.ok known)
  | fault (f : PoolFault) : j.Causes (.fault f) → j.Allows (.error (.fault f))
  | stopped (stop : PoolStop) : (∀ f, stop ≠ .fault f) → j.Allows (.error stop)

theorem Job.EndsWith.allows (h : j.EndsWith false false how) : j.Allows how.value := by
  obtain ⟨m, hleads, hcan, hs⟩ := h
  have hm := hleads.consistent (consistent_first j false)
  have hstage := hm.stage
  rw [hs] at hstage
  -- It has stopped early, or has been cancelled, or there is nothing left to wait for.
  rcases hstage with ⟨stop, rfl, hcauses⟩ | ⟨htrue, -⟩ | ⟨rfl, hnil, -⟩
  · cases stop with
    | fault f => exact .fault f hcauses
    | cancelled | interrupted | endless => exact .stopped _ nofun
  · rw [hcan] at htrue
    cases htrue
  · refine .returned _ (hm.exists_done ?_)
    rw [hnil]
    nofun

theorem allows_runStarted (j : Job ε β) (c : Cancellation) : j.Allows (runStarted j c).value := by
  unfold runStarted
  split
  · exact .stopped _ nofun
  · split
    · split
      · exact .stopped _ nofun
      · exact .stopped _ nofun
    · rename_i hstuck
      split
      · exact .stopped _ nofun
      · -- No task is stuck and none is interrupted, so all have come back.
        rename_i hinterrupted
        refine .returned _ fun o ho => eq_done_of_free ?_ ?_
        · exact Bool.eq_false_iff.mpr fun h => hstuck (List.any_eq_true.mpr ⟨o, ho, h⟩)
        · exact Bool.eq_false_iff.mpr fun h => hinterrupted (List.any_eq_true.mpr ⟨o, ho, h⟩)

theorem allows_run (j : Job ε β) (c : Cancellation) : j.Allows (run j c).value := by
  unfold run
  split
  · rename_i hnone
    exact .fault _ (.notPositive hnone)
  · rename_i hworkers
    split
    · rename_i hnil
      refine .returned _ ?_
      rw [List.isEmpty_iff.mp hnil]
      nofun
    · cases hr : j.refusal? with
      | none => exact allows_runStarted j c
      | some r =>
        dsimp only
        split
        · exact .stopped _ nofun
        · exact .fault _ (.refused r (Int.not_lt.mp hworkers) hr)

theorem Job.IsUncancelledEnd.allows (h : j.IsUncancelledEnd how) : j.Allows how.value := by
  rcases h with hends | ⟨c, -, rfl⟩
  · exact hends.allows
  · exact allows_run j c

end Pool

namespace Cycle

variable {env : Environment} {s : Settings} {p : Provider} {g g' : Gathered} {ps : List Provider}
  {how : Logged (Except PoolStop (Pool.Returned Failure Feed.Document))}
  {fetched : Except Fetch.Stop (List Item)} {c : Cancellation}

/-! ## 2. Fetches -/

theorem fault?_of_causes {o : Fetch.Order} {f : PoolFault} (h : (o.job env).Causes (.fault f)) :
    o.fault? env = some f := by
  unfold Fetch.Order.fault?
  cases h with
  | notPositive hnone => exact if_pos hnone
  | refused r hworkers hr =>
    rw [Option.mem_def, Pool.Job.refusal?, o.length_outcomes_job env] at hr
    have hpositive : ¬ o.workers < 1 := Int.not_lt.mpr hworkers
    rw [if_neg hpositive]
    exact congrArg (Option.map _) hr

theorem answeredBy_of_done (h : ∀ o ∈ ((order s p).job env).outcomes, ∃ r, o = .done r) :
    (order s p).AnsweredBy env.session (answersIn env.session s p) := by
  intro source hsource
  -- The job has the outcome of every source among its own.
  obtain ⟨r, hr⟩ := h _ (List.mem_map_of_mem (List.mem_map_of_mem hsource))
  show Fetch.outcome p env.session (Source.feedUrl p source s.includeShorts) = _
  have hr : Fetch.outcome p env.session (Source.feedUrl p source s.includeShorts) = .done r := hr
  rw [answersIn, hr]
  rfl

theorem value_afterPool_of_goesOn (h : ((order s p).job env).IsUncancelledEnd how)
    (hgoes : GoesOn (Fetch.afterPool env.clock (order s p) how.value).value) :
    (Fetch.afterPool env.clock (order s p) how.value).value =
      (order s p).conclusion env (answersIn env.session s p) := by
  have hallows := h.allows
  cases hvalue : how.value with
  | ok known =>
    rw [hvalue] at hallows
    obtain ⟨_, hdone⟩ := hallows
    have hanswers := answeredBy_of_done hdone
    rw [← hvalue]
    rcases h with hends | ⟨c, hc, rfl⟩
    · exact (Fetch.Order.EndsWith.answered hanswers ⟨how, hends, rfl⟩).1
    · exact ((order s p).afterPool_run hanswers hc).1
  | error stop =>
    rw [hvalue] at hallows hgoes
    cases hallows with
    | fault f hcauses =>
      -- No answer matters to a pool that cannot be started.
      rw [Fetch.Order.conclusion, fault?_of_causes hcauses]
      rfl
    | stopped stop hnot =>
      -- Cancelled, interrupted or without an end, it would abort the cycle.
      cases stop with
      | fault f => exact absurd rfl (hnot f)
      | cancelled | interrupted | endless => exact absurd rfl (hgoes _)

/-! ## 3. Gatherings -/

theorem goesOn_of_absorb (h : (g.absorb p fetched).value = .ok g') : GoesOn fetched := by
  rintro a rfl
  cases h

theorem Gathered.eq_plus_of_absorb (hs : s.sources p ≠ [])
    (h : ((order s p).job env).IsUncancelledEnd how)
    (habsorb : (g.absorb p (Fetch.afterPool env.clock (order s p) how.value).value).value = .ok g') :
    g' = g.plus (endOf env s (answersIn env.session s)) [p] := by
  have hgoes := goesOn_of_absorb habsorb
  have hend : endOf env s (answersIn env.session s) p =
      (Fetch.afterPool env.clock (order s p) how.value).value := by
    rw [endOf, if_neg hs, value_afterPool_of_goesOn h hgoes]
  rw [← hend] at habsorb hgoes
  rw [(g.absorb_of_goesOn hgoes).1] at habsorb
  exact (Except.ok.inj habsorb).symm

theorem Gathers.eq_plus {before after : Bool} {r : Logged (Except Abort Gathered)}
    (h : Gathers env s before g ps after r) (hbefore : before = false) (hafter : after = false)
    (hr : r.value = .ok g') : g' = g.plus (endOf env s (answersIn env.session s)) ps := by
  induction h with
  | done g _ =>
    obtain rfl := Except.ok.inj hr
    exact (g.plus_nil _).symm
  | skip hs _ ih =>
    rw [Gathered.plus_cons, Gathered.plus_skipped _ hs]
    exact ih hbefore hafter hr
  | stop _ _ _ => cases hr
  | @next _ between _ g between' p ps fetched r hs hends habsorb hrest ih =>
    obtain rfl := hrest.eq_false hafter
    subst hbefore
    obtain ⟨how, hjob, rfl⟩ := hends
    rw [Gathered.plus_cons, ← Gathered.eq_plus_of_absorb hs (.inl hjob) habsorb]
    exact ih rfl hafter hr

theorem eq_plus_of_gather (hc : c.isSet = false) (h : (gather env c s g ps).value = .ok g') :
    g' = g.plus (endOf env s (answersIn env.session s)) ps := by
  induction ps generalizing g with
  | nil =>
    obtain rfl := Except.ok.inj h
    exact (g.plus_nil _).symm
  | cons p ps ih =>
    rw [gather, Logged.value_bind] at h
    cases hfirst : (gatherFrom env c s g p).value with
    | error a =>
      rw [hfirst] at h
      cases h
    | ok next =>
      rw [hfirst] at h
      have hnext : next = g.plus (endOf env s (answersIn env.session s)) [p] := by
        unfold gatherFrom at hfirst
        split at hfirst
        · rename_i hs
          obtain rfl := Except.ok.inj hfirst
          exact (Gathered.plus_skipped _ (List.isEmpty_iff.mp hs)).symm
        · rename_i hs
          exact Gathered.eq_plus_of_absorb (mt List.isEmpty_iff.mpr hs) (.inr ⟨c, hc, rfl⟩) hfirst
      rw [Gathered.plus_cons, ← hnext]
      exact ih h

/-! ## 4. Results -/

theorem eq_resultOf_of_conclude {gathered : Except Abort Gathered} {result : CycleResult}
    (hgathered : ∀ g, gathered = .ok g →
      g = ({} : Gathered).plus (endOf env s (answersIn env.session s)) Provider.all)
    (h : (conclude s gathered).value = .ok result) :
    result = resultOf env s (answersIn env.session s) := by
  cases gathered with
  | error a => cases h
  | ok g =>
    rw [hgathered g rfl] at h
    exact Except.ok.inj (h.symm.trans (finish_gathered env s (answersIn env.session s)).1)

/-- A cycle that nobody cancels has at most one result, the one that its answers amount to, also where
some of its requests do not come back. -/
theorem IsUncancelledEnd.eq_resultOf {ended : Logged (Except Abort CycleResult)} {result : CycleResult}
    (h : IsUncancelledEnd env s ended) (hvalue : ended.value = .ok result) :
    result = resultOf env s (answersIn env.session s) := by
  rcases h with ⟨r, hgathers, rfl⟩ | ⟨c, hc, rfl⟩
  · exact eq_resultOf_of_conclude (fun g hg => hgathers.eq_plus rfl rfl hg) hvalue
  · exact eq_resultOf_of_conclude (fun g hg => eq_plus_of_gather hc hg) hvalue

/-- Whether a cycle that nobody cancels can come to an end, and comes to a result at each. -/
def HasResults (env : Environment) (s : Settings) : Prop :=
  (∃ ended, EndsWith env s false false ended) ∧
    ∀ ended, IsUncancelledEnd env s ended → ∃ result, ended.value = .ok result

theorem hasResults_of_comesBack (hback : ∀ p, ∀ source ∈ s.sources p,
    (env.session (Source.feedUrl p source s.includeShorts)).comesBack = true) : HasResults env s := by
  have hanswers := answeredBy_answersIn hback
  exact ⟨exists_endsWith hanswers, fun ended hended => ⟨_, (hended.answered hanswers).1⟩⟩

end Cycle

end VideoWall
