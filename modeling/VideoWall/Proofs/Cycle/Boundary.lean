import VideoWall.Proofs.Cycle.Results
import VideoWall.Proofs.Pool.Boundary

/-!
# Cycles that are cancelled before they start, or between two fetches, or never

A cycle that is cancelled before it starts is cancelled by the first pool that it starts, and comes to a
result if it starts none. The same holds of what is left of a cycle after the fetch in which it was
cancelled. A cycle that nobody cancels does not end as cancelled. Main statements:
`IsPrecancelledEnd.value_iff`, `FirstFetch.EndsWith.value_eq` and `EndsWith.value_ne_cancelled`.
-/

namespace VideoWall

/-! ## 1. Fetches -/

namespace Fetch

variable {env : Environment} {o : Order} {p : Provider} {template : String} {before after : Bool}
  {fetched : Logged (Except Stop (List Item))} {c : Cancellation}

theorem Order.length_outcomes_job (env : Environment) (o : Order) :
    (o.job env).outcomes.length = o.sources.length := by
  simp only [job, urls, List.length_map]

theorem Order.outcomes_job_ne_nil (hne : o.sources ≠ []) : (o.job env).outcomes ≠ [] := by
  intro h
  have hlength := o.length_outcomes_job env
  rw [h] at hlength
  exact hne (List.length_eq_zero_iff.mp hlength.symm)

theorem Order.IsStartable.refusal?_job (h : o.IsStartable env) : (o.job env).refusal? = none := by
  apply Pool.Job.refusal?_eq_none
  rw [o.length_outcomes_job env]
  exact h.2

/-- Whether something is an end of a fetch that is cancelled before it starts: of some run of its pool,
or the computed one. -/
def Order.IsPrecancelledEnd (env : Environment) (o : Order)
    (fetched : Logged (Except Stop (List Item))) : Prop :=
  (∃ after, o.EndsWith env true after fetched) ∨ ∃ c : Cancellation, c.isSet = true ∧ fetched = run env c o

theorem value_run (env : Environment) (c : Cancellation) (o : Order) :
    (run env c o).value = (afterPool env.clock o (Pool.run (o.job env) c).value).value := rfl

theorem Order.IsPrecancelledEnd.value_of_startable (h : o.IsPrecancelledEnd env fetched)
    (hstart : o.IsStartable env) (hne : o.sources ≠ []) :
    fetched.value = .error (.aborted .cancelled) := by
  have hjob : (o.job env).outcomes ≠ [] := o.outcomes_job_ne_nil hne
  rcases h with ⟨after, how, hends, rfl⟩ | ⟨c, hc, rfl⟩
  · obtain ⟨left, rfl⟩ := hends.eq_cancelWith hstart.1 hstart.refusal?_job hjob
    rfl
  · rw [value_run, Pool.run_of_isSet hc hstart.1 hstart.refusal?_job hjob]
    rfl

theorem Order.IsPrecancelledEnd.value_of_no_workers (h : o.IsPrecancelledEnd env fetched)
    (hnone : o.workers < 1) :
    fetched.value = .error (.noContent (.pool (.notPositive o.workers)) o.sources.length) := by
  rcases h with ⟨after, how, hends, rfl⟩ | ⟨c, -, rfl⟩
  · rw [hends.eq_turnedAway hnone]
    rfl
  · have hrun : Pool.run (o.job env) c = (o.job env).turnedAway := if_pos hnone
    rw [value_run, hrun]
    rfl

theorem Order.IsPrecancelledEnd.value_eq {fetched' : Logged (Except Stop (List Item))}
    (h : o.IsPrecancelledEnd env fetched) (h' : o.IsPrecancelledEnd env fetched')
    (hstart : o.workers < 1 ∨ o.IsStartable env) (hne : o.sources ≠ []) :
    fetched.value = fetched'.value := by
  rcases hstart with hnone | hstart
  · rw [h.value_of_no_workers hnone, h'.value_of_no_workers hnone]
  · rw [h.value_of_startable hstart hne, h'.value_of_startable hstart hne]

theorem Order.exists_endsWith_of_cancelled (hstart : o.workers < 1 ∨ o.IsStartable env)
    (hne : o.sources ≠ []) : ∃ fetched, o.EndsWith env true true fetched := by
  rcases hstart with hnone | hstart
  · exact ⟨_, _, Pool.Job.endsWith_turnedAway (j := o.job env) hnone, rfl⟩
  · obtain ⟨how, hends⟩ := Pool.Job.exists_endsWith_of_cancelled hstart.1 hstart.refusal?_job
      (o.outcomes_job_ne_nil hne)
    exact ⟨_, how, hends, rfl⟩

/-- Only an answer that is neither a document nor a failure aborts a collection. -/
theorem eq_unanswered_of_collect {now : Nat → Nat → Stamp}
    {answers : List (String × Option Feed.Document × Option Failure)} {a : Abort}
    (h : (collect now p template answers).value = .error a) : a = .unanswered := by
  induction answers generalizing now with
  | nil => cases h
  | cons answer rest ih =>
    obtain ⟨source, document, failure⟩ := answer
    cases failure with
    | some f =>
      rw [collect, Logged.value_bind, Logged.value_bind] at h
      cases hrest : (collect (fun n => now (n + 1)) p template rest).value with
      | error b =>
        rw [hrest] at h
        obtain rfl := Except.error.inj h
        exact ih hrest
      | ok collected =>
        rw [hrest] at h
        cases h
    | none =>
      cases document with
      | none => exact (Except.error.inj h).symm
      | some d =>
        rw [collect, Logged.value_bind, Logged.value_bind] at h
        cases hrest : (collect (fun n => now (n + 1)) p template rest).value with
        | error b =>
          rw [hrest] at h
          obtain rfl := Except.error.inj h
          exact ih hrest
        | ok collected =>
          rw [hrest] at h
          cases h

theorem value_finish_ne_cancelled (o : Order) (items : List Item) (failed : Nat) :
    (finish o items failed).value ≠ .error (.aborted .cancelled) := by
  unfold finish
  split
  · nofun
  · split
    · nofun
    · dsimp only [Logged.value_bind]
      split
      · nofun
      · nofun

theorem value_afterPool_ne_cancelled (clock : Clock) (o : Order)
    {how : Except PoolStop (Pool.Returned Failure Feed.Document)} (h : how ≠ .error .cancelled) :
    (afterPool clock o how).value ≠ .error (.aborted .cancelled) := by
  cases how with
  | error stop =>
    cases stop with
    | cancelled => exact absurd rfl h
    | fault f => nofun
    | interrupted => nofun
    | endless => nofun
  | ok returned =>
    unfold afterPool
    rw [Logged.value_bind]
    cases hcollected : (collect (clock.reading o.provider) o.provider o.template
        (o.sources.zip (returned.results.zip returned.errors))).value with
    | error a =>
      obtain rfl := eq_unanswered_of_collect hcollected
      nofun
    | ok collected => exact value_finish_ne_cancelled o collected.1 collected.2

theorem Order.EndsWith.value_ne_cancelled (h : o.EndsWith env false false fetched) :
    fetched.value ≠ .error (.aborted .cancelled) := by
  obtain ⟨how, hends, rfl⟩ := h
  exact value_afterPool_ne_cancelled env.clock o hends.value_ne_cancelled

theorem value_run_ne_cancelled (h : c.Spares (o.job env).outcomes) :
    (run env c o).value ≠ .error (.aborted .cancelled) :=
  value_afterPool_ne_cancelled env.clock o (Pool.value_run_ne_cancelled h)

end Fetch

namespace Cycle

variable {env : Environment} {s : Settings} {before between after : Bool} {p : Provider}
  {ps : List Provider} {g : Gathered} {r : Logged (Except Abort Gathered)} {c : Cancellation}
  {ended : Logged (Except Abort CycleResult)}

/-! ## 2. Cancelled before the start -/

/-- Whether the system takes every task of the pools of a cycle. -/
def TakesTasks (env : Environment) (s : Settings) : Prop :=
  ∀ p, ∀ r ∈ env.refusal p, (s.sources p).length ≤ r.after

theorem TakesTasks.isStartable (h : TakesTasks env s) (hworkers : 1 ≤ s.concurrency) (p : Provider) :
    (order s p).IsStartable env :=
  ⟨hworkers, h p⟩

/-- What a gathering that is cancelled before it starts comes to, if pools have workers: the first
provider with sources cancels it. -/
def precancelled (s : Settings) (g : Gathered) (ps : List Provider) : Except Abort Gathered :=
  if ∀ p ∈ ps, s.sources p = [] then .ok g else .error .cancelled

theorem precancelled_skip (hs : s.sources p = []) : precancelled s g (p :: ps) = precancelled s g ps := by
  unfold precancelled
  simp only [List.forall_mem_cons, hs, true_and]

theorem precancelled_stop (hs : s.sources p ≠ []) : precancelled s g (p :: ps) = .error .cancelled :=
  if_neg fun h => hs (h p List.mem_cons_self)

theorem Gathers.value_of_precancelled (h : Gathers env s before g ps after r) (hbefore : before = true)
    (htakes : TakesTasks env s) (hworkers : 1 ≤ s.concurrency) : r.value = precancelled s g ps := by
  induction h with
  | done g _ => exact (if_pos fun p hp => absurd hp List.not_mem_nil).symm
  | skip hs _ ih => rw [precancelled_skip hs, ih hbefore]
  | @stop _ after g p ps a fetched hs hends habort =>
    subst hbefore
    have hfetched := (Fetch.Order.IsPrecancelledEnd.value_of_startable (.inl ⟨after, hends⟩)
      (htakes.isStartable hworkers p) hs)
    rw [hfetched] at habort
    obtain rfl := Except.error.inj habort
    rw [precancelled_stop hs]
    rfl
  | @next _ between _ g g' p ps fetched r hs hends habsorb _ _ =>
    -- No fetch goes on that is cancelled before it starts.
    subst hbefore
    rw [Fetch.Order.IsPrecancelledEnd.value_of_startable (.inl ⟨between, hends⟩)
      (htakes.isStartable hworkers p) hs] at habsorb
    cases habsorb

theorem Gathers.value_of_no_workers (h : Gathers env s before g ps after r) (hbefore : before = true)
    (hnone : s.concurrency < 1) : ∃ g', r.value = .ok g' ∧ g'.items = g.items := by
  induction h with
  | done g _ => exact ⟨g, rfl, rfl⟩
  | skip _ _ ih => exact ih hbefore
  | @stop _ after g p ps a fetched hs hends habort =>
    subst hbefore
    rw [Fetch.Order.IsPrecancelledEnd.value_of_no_workers (.inl ⟨after, hends⟩) hnone] at habort
    cases habort
  | @next _ between _ g g' p ps fetched r hs hends habsorb _ ih =>
    obtain ⟨g'', hr, hitems⟩ := ih (hends.mono hbefore)
    subst hbefore
    rw [Fetch.Order.IsPrecancelledEnd.value_of_no_workers (.inl ⟨between, hends⟩) hnone] at habsorb
    obtain rfl := Except.ok.inj habsorb
    exact ⟨g'', hr, hitems⟩

theorem TakesTasks.workers_or_isStartable (h : TakesTasks env s) (p : Provider) :
    (order s p).workers < 1 ∨ (order s p).IsStartable env := by
  by_cases hworkers : 1 ≤ s.concurrency
  · exact .inr (h.isStartable hworkers p)
  · exact .inl (Int.not_le.mp hworkers)

theorem exists_gathers_of_isSet (htakes : TakesTasks env s) (hc : c.isSet = true) (g : Gathered)
    (ps : List Provider) :
    ∃ r, Gathers env s true g ps true r ∧ r.value = (gather env c s g ps).value := by
  induction ps generalizing g with
  | nil => exact ⟨_, .done g id, rfl⟩
  | cons p ps ih =>
    by_cases hs : s.sources p = []
    · obtain ⟨r, hr, hvalue⟩ := ih g
      refine ⟨r, .skip hs hr, ?_⟩
      rw [gather, Logged.value_bind, gatherFrom, if_pos (List.isEmpty_iff.mpr hs)]
      exact hvalue
    · have hstart := htakes.workers_or_isStartable p
      obtain ⟨fetched, hends⟩ := Fetch.Order.exists_endsWith_of_cancelled hstart hs
      have hsame : (Fetch.run env c (order s p)).value = fetched.value :=
        Fetch.Order.IsPrecancelledEnd.value_eq (.inr ⟨c, hc, rfl⟩) (.inl ⟨true, hends⟩) hstart hs
      have hfirst : (gatherFrom env c s g p).value = (g.absorb p fetched.value).value := by
        unfold gatherFrom
        rw [if_neg (mt List.isEmpty_iff.mp hs), Logged.value_bind, hsame]
      rw [gather, Logged.value_bind, hfirst]
      cases habsorb : (g.absorb p fetched.value).value with
      | error a => exact ⟨_, .stop hs hends habsorb, rfl⟩
      | ok g' =>
        obtain ⟨r, hr, hvalue⟩ := ih g'
        exact ⟨_, .next hs hends habsorb hr, hvalue⟩

theorem exists_result_finish (hg : ∀ i ∈ g.items, i.kind = .zoned) :
    ∃ result, (finish s g).value = .ok result := by
  unfold finish
  rw [Item.newestFirst_of_zoned hg]
  exact ⟨_, rfl⟩

/-- Whether something is an end of a cycle that is cancelled before it starts: of some run of its pools,
or the computed one. -/
def IsPrecancelledEnd (env : Environment) (s : Settings)
    (ended : Logged (Except Abort CycleResult)) : Prop :=
  (∃ after, EndsWith env s true after ended) ∨ ∃ c : Cancellation, c.isSet = true ∧ ended = run env c s

theorem IsPrecancelledEnd.exists_gathers (h : IsPrecancelledEnd env s ended)
    (htakes : TakesTasks env s) :
    ∃ after r, Gathers env s true {} Provider.all after r ∧
      ended.value = (conclude s r.value).value := by
  rcases h with ⟨after, r, hgathers, rfl⟩ | ⟨c, hc, rfl⟩
  · exact ⟨after, r, hgathers, rfl⟩
  · obtain ⟨r, hgathers, hvalue⟩ := exists_gathers_of_isSet htakes hc {} Provider.all
    refine ⟨true, r, hgathers, ?_⟩
    rw [hvalue]
    rfl

theorem exists_endsWith_of_precancelled (htakes : TakesTasks env s) :
    ∃ ended, EndsWith env s true true ended := by
  obtain ⟨r, hgathers, -⟩ := exists_gathers_of_isSet (c := .preset) htakes rfl {} Provider.all
  exact ⟨_, r, hgathers, rfl⟩

theorem mem_all (p : Provider) : p ∈ Provider.all := by
  cases p <;> decide

theorem IsPrecancelledEnd.value_iff (h : IsPrecancelledEnd env s ended) (htakes : TakesTasks env s) :
    (ended.value = .error .cancelled ↔ (∃ p, s.sources p ≠ []) ∧ 1 ≤ s.concurrency) ∧
      (ended.value ≠ .error .cancelled → ∃ result, ended.value = .ok result) := by
  obtain ⟨after, r, hgathers, hended⟩ := h.exists_gathers htakes
  -- It is cancelled, or it comes to a result; which of the two is a matter of sources and workers.
  have hcases : (∃ p, s.sources p ≠ []) ∧ 1 ≤ s.concurrency ∧ ended.value = .error .cancelled ∨
      ¬ ((∃ p, s.sources p ≠ []) ∧ 1 ≤ s.concurrency) ∧ ∃ result, ended.value = .ok result := by
    have hempty : ∀ i ∈ ({} : Gathered).items, i.kind = .zoned := by nofun
    by_cases hworkers : 1 ≤ s.concurrency
    · have hr := hgathers.value_of_precancelled rfl htakes hworkers
      by_cases hnone : ∀ p ∈ Provider.all, s.sources p = []
      · right
        rw [precancelled, if_pos hnone] at hr
        rw [hended, hr]
        exact ⟨fun h => h.1.elim fun p hp => hp (hnone p (mem_all p)), exists_result_finish hempty⟩
      · left
        rw [precancelled, if_neg hnone] at hr
        obtain ⟨p, hp⟩ := Classical.not_forall.mp hnone
        rw [hended, hr]
        exact ⟨⟨p, (Classical.not_imp.mp hp).2⟩, hworkers, rfl⟩
    · right
      obtain ⟨g, hr, hitems⟩ := hgathers.value_of_no_workers rfl (Int.not_le.mp hworkers)
      rw [hended, hr]
      exact ⟨fun h => hworkers h.2, exists_result_finish (hitems ▸ hempty)⟩
  rcases hcases with ⟨hsources, hworkers, hvalue⟩ | ⟨hnot, result, hvalue⟩
  · exact ⟨⟨fun _ => ⟨hsources, hworkers⟩, fun _ => hvalue⟩, fun h => absurd hvalue h⟩
  · rw [hvalue]
    exact ⟨⟨nofun, fun h => absurd h hnot⟩, fun _ => ⟨result, rfl⟩⟩

/-! ## 3. Cancelled during the first fetch -/

/-- The first fetch of a cycle as it went, up to where the cycle has taken what it came to. The cycle is
cancelled `before` it starts or not, and is by the end of the fetch if `between` is true. -/
structure FirstFetch (env : Environment) (s : Settings) (before between : Bool) where
  provider : Provider
  others : List Provider
  first : ∃ skipped, Provider.all = skipped ++ provider :: others ∧ ∀ q ∈ skipped, s.sources q = []
  sources_ne : s.sources provider ≠ []
  fetched : Logged (Except Fetch.Stop (List Item))
  ends : (order s provider).EndsWith env before between fetched
  gathered : Gathered
  completes : (({} : Gathered).absorb provider fetched.value).value = .ok gathered

def FirstFetch.andThen (f : FirstFetch env s before between) (r : Logged (Except Abort Gathered)) :
    Logged (Except Abort Gathered) := do
  let _ ← ({} : Gathered).absorb f.provider (← f.fetched)
  r

def FirstFetch.EndsWith (f : FirstFetch env s before between) (after : Bool)
    (ended : Logged (Except Abort CycleResult)) : Prop :=
  ∃ r, Gathers env s between f.gathered f.others after r ∧
    ended = (do
      Logged.say (.cycleStarted s.channels s.playlists s.rumbleChannels)
      conclude s (← f.andThen r))

theorem Gathers.skip_all {skipped : List Provider} (hskipped : ∀ q ∈ skipped, s.sources q = [])
    (h : Gathers env s before g ps after r) : Gathers env s before g (skipped ++ ps) after r := by
  induction skipped with
  | nil => exact h
  | cons q skipped ih =>
    obtain ⟨hq, hrest⟩ := List.forall_mem_cons.mp hskipped
    exact .skip hq (ih hrest)

theorem FirstFetch.EndsWith.endsWith {f : FirstFetch env s before between}
    (h : f.EndsWith after ended) : Cycle.EndsWith env s before after ended := by
  obtain ⟨r, hr, rfl⟩ := h
  obtain ⟨skipped, hall, hskipped⟩ := f.first
  refine ⟨_, ?_, rfl⟩
  rw [hall]
  exact (Gathers.next f.sources_ne f.ends f.completes hr).skip_all hskipped

theorem FirstFetch.mem_others {f : FirstFetch env s before between} {q : Provider}
    (hq : q ≠ f.provider) (hs : s.sources q ≠ []) : q ∈ f.others := by
  obtain ⟨skipped, hall, hskipped⟩ := f.first
  have hmem := mem_all q
  rw [hall, List.mem_append, List.mem_cons] at hmem
  rcases hmem with hmem | hmem | hmem
  · exact absurd (hskipped q hmem) hs
  · exact absurd hmem hq
  · exact hmem

theorem FirstFetch.exists_endsWith (f : FirstFetch env s before true) (htakes : TakesTasks env s) :
    ∃ ended, f.EndsWith true ended := by
  obtain ⟨r, hr, -⟩ := exists_gathers_of_isSet (c := .preset) htakes rfl f.gathered f.others
  exact ⟨_, r, hr, rfl⟩

/-- A cycle that is cancelled in its first fetch is cancelled by the next pool that it starts, whatever
the first fetch has brought. -/
theorem FirstFetch.EndsWith.value_eq {f : FirstFetch env s before true} (h : f.EndsWith after ended)
    (htakes : TakesTasks env s) (hworkers : 1 ≤ s.concurrency)
    (hother : ∃ q, q ≠ f.provider ∧ s.sources q ≠ []) : ended.value = .error .cancelled := by
  obtain ⟨r, hr, rfl⟩ := h
  obtain ⟨q, hq, hs⟩ := hother
  have hvalue : r.value = .error .cancelled := by
    rw [hr.value_of_precancelled rfl htakes hworkers, precancelled]
    exact if_neg fun h => hs (h q (mem_others hq hs))
  show (conclude s r.value).value = _
  rw [hvalue]
  rfl

/-! ## 4. Never cancelled -/

theorem Gathered.eq_aborted_of_absorb {fetched : Except Fetch.Stop (List Item)} {a : Abort}
    (h : (g.absorb p fetched).value = .error a) : fetched = .error (.aborted a) := by
  cases fetched with
  | ok items => cases h
  | error stop =>
    cases stop with
    | aborted b => rw [Except.error.inj h]
    | noContent reason failed => cases h
    | partialContent items failed => cases h

theorem Gathers.eq_false (h : Gathers env s before g ps after r) (hafter : after = false) :
    before = false := by
  cases hbefore : before with
  | false => rfl
  | true => exact absurd ((h.mono hbefore).symm.trans hafter) Bool.noConfusion

theorem Gathers.value_ne_cancelled (h : Gathers env s before g ps after r) (hbefore : before = false)
    (hafter : after = false) : r.value ≠ .error .cancelled := by
  induction h with
  | done g _ => nofun
  | skip _ _ ih => exact ih hbefore hafter
  | stop hs hends habort =>
    subst hbefore hafter
    intro heq
    obtain rfl := Except.error.inj heq
    exact hends.value_ne_cancelled (Gathered.eq_aborted_of_absorb habort)
  | @next _ between _ g g' p ps fetched r _ _ _ hrest ih =>
    exact ih (hrest.eq_false hafter) hafter

theorem value_gather_ne_cancelled (hspares : ∀ p, c.Spares ((order s p).job env).outcomes)
    (g : Gathered) (ps : List Provider) : (gather env c s g ps).value ≠ .error .cancelled := by
  induction ps generalizing g with
  | nil => nofun
  | cons p ps ih =>
    have hfirst : (gatherFrom env c s g p).value ≠ .error .cancelled := by
      unfold gatherFrom
      split
      · nofun
      · intro h
        exact Fetch.value_run_ne_cancelled (hspares p) (Gathered.eq_aborted_of_absorb h)
    rw [gather, Logged.value_bind]
    cases hvalue : (gatherFrom env c s g p).value with
    | error a =>
      intro h
      rw [hvalue] at hfirst
      exact hfirst h
    | ok g' => exact ih g'

theorem value_conclude_ne_cancelled {gathered : Except Abort Gathered}
    (h : gathered ≠ .error .cancelled) : (conclude s gathered).value ≠ .error .cancelled := by
  cases gathered with
  | error a =>
    intro heq
    obtain rfl := Except.error.inj heq
    exact h rfl
  | ok g =>
    show (finish s g).value ≠ _
    unfold finish
    split
    · nofun
    · nofun

theorem EndsWith.value_ne_cancelled (h : EndsWith env s false false ended) :
    ended.value ≠ .error .cancelled := by
  obtain ⟨r, hgathers, rfl⟩ := h
  exact value_conclude_ne_cancelled (hgathers.value_ne_cancelled rfl rfl)

theorem value_run_ne_cancelled (hspares : ∀ p, c.Spares ((order s p).job env).outcomes) :
    (run env c s).value ≠ .error .cancelled :=
  value_conclude_ne_cancelled (value_gather_ne_cancelled hspares {} Provider.all)

end Cycle

end VideoWall
