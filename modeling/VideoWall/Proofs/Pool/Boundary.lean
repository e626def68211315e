import VideoWall.Proofs.Pool.Cancellation

/-!
# Runs that are cancelled before they start, or never

A run of a pool that is cancelled before it starts ends as cancelled if it has workers and inputs, even
if all its tasks come back before the caller looks for the first time. A run that nobody cancels does
not end as cancelled, whatever its tasks do. Main statements: `Job.EndsWith.eq_cancelWith` and
`Job.EndsWith.value_ne_cancelled`.
-/

namespace VideoWall

/-- Whether a cancellation does not come to a run with given outcomes: it is not there at the start, no
task asks for it, and no task lets the time run out. -/
structure Cancellation.Spares {ε β : Type} (c : Cancellation) (outcomes : List (TaskOutcome ε β)) :
    Prop where
  unset : c.isSet = false
  unasked : c.isReachable = true → outcomes.any Pool.asksToCancel = false
  inTime : c.isTimed = true → outcomes.any Pool.isStuck = false

namespace Pool

variable {ε β : Type} {j : Job ε β} {m a b : Moment ε β} {before after : Bool}
  {how : Logged (Except PoolStop (Returned ε β))} {c : Cancellation}

/-! ## 1. Cancelled before the start -/

theorem isBoundToStop_first (hne : j.outcomes ≠ []) :
    IsBoundToStop (.first true j.outcomes.length : Moment ε β) :=
  .before rfl (mt List.range_eq_nil.mp (mt List.length_eq_zero_iff.mp hne)) rfl

theorem Job.EndsWith.eq_cancelWith (h : j.EndsWith true after how) (hworkers : 1 ≤ j.workers)
    (hstart : j.refusal? = none) (hne : j.outcomes ≠ []) : ∃ left, how = cancelWith left := by
  obtain ⟨m, hleads, -, hs⟩ := h
  have hbound := hleads.isBoundToStop hworkers hstart (consistent_first j true)
    (isBoundToStop_first hne)
  exact hbound.eq_cancelWith hs

/-- A run that is cancelled before it starts can come to its first look before any task has come
back. -/
theorem exists_first_look (hworkers : 1 ≤ j.workers) (hstart : j.refusal? = none)
    (hne : j.outcomes ≠ []) :
    ∃ m, Leads j (.first true j.outcomes.length) m ∧ m.stage = .looking ∧ m.isCancelled = true ∧
      m.pending = List.range j.outcomes.length ∧ m.finished = [] := by
  let entered : Moment ε β := { Moment.first true j.outcomes.length with stage := .handing }
  have henter : Leads j (.first true j.outcomes.length) entered :=
    (Leads.refl _).tail (.enter _ rfl hworkers hne)
  obtain ⟨m, hleads, hs, hcan, hpending, hfinished⟩ :=
    exists_looking_of_handing (m := entered) rfl (Nat.zero_le _) hstart
  exact ⟨m, henter.trans hleads, hs, hcan, hpending, hfinished⟩

theorem Job.exists_endsWith_of_cancelled (hworkers : 1 ≤ j.workers) (hstart : j.refusal? = none)
    (hne : j.outcomes ≠ []) : ∃ how, j.EndsWith true true how := by
  obtain ⟨m, hleads, hs, hcan, -⟩ := exists_first_look hworkers hstart hne
  obtain ⟨m', how, hleads', hs'⟩ := canEnd_of_looking hs hcan
  exact ⟨how, m', hleads.trans hleads', hleads'.isCancelled_mono hcan, hs'⟩

/-- All tasks of a run that is cancelled before it starts can come back before the first look; that
makes no difference. -/
theorem exists_late_first_look (hworkers : 1 ≤ j.workers) (hstart : j.refusal? = none)
    (hne : j.outcomes ≠ []) (hfree : ∀ o ∈ j.outcomes, isStuck o = false) :
    ∃ m, Leads j (.first true j.outcomes.length) m ∧ m.stage = .looking ∧
      m.pending = List.range j.outcomes.length ∧ (∀ i < j.outcomes.length, i ∈ m.finished) ∧
      CanEnd j m ∧ ∀ m' how, Leads j m m' → m'.stage = .ended how → ∃ left, how = cancelWith left := by
  obtain ⟨m₀, hleads₀, hs₀, hcan₀, hpending₀, -⟩ := exists_first_look hworkers hstart hne
  have hm₀ := hleads₀.consistent (consistent_first j true)
  obtain ⟨m, hleads, hs, hpending, hcan, hall⟩ := hm₀.exists_all_finished (.inl hs₀) hfree
  refine ⟨m, hleads₀.trans hleads, hs.trans hs₀, hpending.trans hpending₀, ?_, ?_, ?_⟩
  · intro i hi
    apply hall
    rw [hpending, hpending₀]
    exact List.mem_range.mpr hi
  · exact canEnd_of_looking (hs.trans hs₀) (hcan.trans hcan₀)
  · intro m' how hleads' hs'
    have hends : j.EndsWith true m'.isCancelled how :=
      ⟨m', (hleads₀.trans hleads).trans hleads', rfl, hs'⟩
    exact hends.eq_cancelWith hworkers hstart hne

theorem run_of_isSet (hc : c.isSet = true) (hworkers : 1 ≤ j.workers) (hstart : j.refusal? = none)
    (hne : j.outcomes ≠ []) : run j c = cancelWith j.outcomes.length := by
  unfold run runStarted
  rw [if_neg (by omega), if_neg (mt List.isEmpty_iff.mp hne), hstart]
  dsimp only
  rw [hc, Bool.true_or, if_pos rfl]

/-! ## 2. Without workers -/

def Job.turnedAway (j : Job ε β) : Logged (Except PoolStop (Returned ε β)) :=
  pure (.error (.fault (.notPositive j.workers)))

theorem Step.stage_of_no_workers (h : Step j a b) (hnone : j.workers < 1)
    (ha : a.stage = .entering ∨ a.stage = .ended j.turnedAway) :
    b.stage = .entering ∨ b.stage = .ended j.turnedAway := by
  cases h with
  | refuseWorkers _ _ => exact .inr rfl
  | returnEmpty _ hpos _ | enter _ hpos _ => omega
  | give _ _ _ _ _ | finish _ _ _ _ _ _ | cancel => exact ha
  | hand hs _ _ | refuse _ hs _ _ _ | start hs _ | complete hs _ | stop hs _ _ | wait hs _ _
  | wake _ hs _ _ _ | interrupt _ _ hs _ _ _ _ | close _ hs _ =>
    -- The caller comes to none of these stages.
    rw [hs] at ha
    rcases ha with ha | ha <;> cases ha

theorem Leads.stage_of_no_workers (h : Leads j a b) (hnone : j.workers < 1)
    (ha : a.stage = .entering) : b.stage = .entering ∨ b.stage = .ended j.turnedAway := by
  induction h with
  | refl => exact .inl ha
  | tail _ hstep ih => exact hstep.stage_of_no_workers hnone ih

theorem Job.EndsWith.eq_turnedAway (h : j.EndsWith before after how) (hnone : j.workers < 1) :
    how = j.turnedAway := by
  obtain ⟨m, hleads, -, hs⟩ := h
  rcases hleads.stage_of_no_workers hnone rfl with hstage | hstage
  · rw [hs] at hstage
    cases hstage
  · exact Stage.ended.inj (hs.symm.trans hstage)

theorem Job.endsWith_turnedAway (hnone : j.workers < 1) : j.EndsWith before before j.turnedAway :=
  ⟨_, (Leads.refl _).tail (.refuseWorkers _ rfl hnone), rfl, rfl⟩

/-! ## 3. Never cancelled -/

/-- A run that nobody cancels does not end as cancelled, whatever its tasks do: also where one of them
fails as if it were. -/
theorem Job.EndsWith.value_ne_cancelled (h : j.EndsWith false false how) :
    how.value ≠ .error .cancelled := by
  obtain ⟨m, hleads, hcan, hs⟩ := h
  have hstage := (hleads.consistent (consistent_first j false)).stage
  rw [hs] at hstage
  rcases hstage with ⟨stop, rfl, hcauses⟩ | ⟨htrue, -⟩ | ⟨rfl, -⟩
  · intro heq
    obtain rfl := Except.error.inj heq
    cases hcauses
  · rw [hcan] at htrue
    exact absurd htrue Bool.false_ne_true
  · intro heq
    cases heq

theorem value_runStarted_ne_cancelled (h : c.Spares j.outcomes) :
    (runStarted j c).value ≠ .error .cancelled := by
  have hasked : (c.isReachable && j.outcomes.any asksToCancel) = false := by
    cases hreach : c.isReachable with
    | false => rfl
    | true => exact h.unasked hreach
  unfold runStarted
  rw [h.unset, hasked, Bool.or_false, if_neg Bool.false_ne_true]
  cases hstuck : j.outcomes.any isStuck with
  | true =>
    -- The time does not run out where a task is stuck.
    have htimed : c.isTimed = false := by
      cases ht : c.isTimed with
      | false => rfl
      | true => exact absurd ((h.inTime ht).symm.trans hstuck) Bool.false_ne_true
    rw [htimed, if_pos rfl, if_neg Bool.false_ne_true]
    nofun
  | false =>
    rw [if_neg Bool.false_ne_true]
    split
    · nofun
    · nofun

theorem value_run_ne_cancelled (h : c.Spares j.outcomes) : (run j c).value ≠ .error .cancelled := by
  unfold run
  split
  · nofun
  · split
    · nofun
    · cases j.refusal? with
      | some r =>
        dsimp only
        split
        · nofun
        · nofun
      | none => exact value_runStarted_ne_cancelled h

end Pool

end VideoWall
