import VideoWall.Proofs.Pool.Knowledge

/-!
# The invariant of a run of the pool

What holds at every moment of a run, whatever the workers and the caller have done so far: the workers
take the inputs in their order and finish only what they were given (`WorkersFit`), the caller has
recorded exactly the outcomes of the inputs that it no longer waits for (`CallerFits`), and the run
ends only in the ways that the job allows (`StageFits`). Main statement: `Leads.consistent`.
-/

namespace VideoWall.Pool

variable {ε β : Type} {j : Job ε β} {m a b : Moment ε β}

/-! ## 1. The parts of the invariant -/

/-- Whether the workers have been given inputs in order, and finished only what they were given. -/
structure WorkersFit (j : Job ε β) (m : Moment ε β) : Prop where
  handed_le : m.handed ≤ j.outcomes.length
  taken : m.given ++ m.queue = List.range m.handed
  finished_nodup : m.finished.Nodup
  finished_given : ∀ i ∈ m.finished, i ∈ m.given
  finished_free : ∀ i ∈ m.finished, ∃ o, j.outcomes[i]? = some o ∧ isStuck o = false

/-- Whether the caller knows the outcomes of exactly those inputs that it no longer waits for. -/
structure CallerFits (j : Job ε β) (m : Moment ε β) : Prop where
  pending_lt : ∀ i ∈ m.pending, i < j.outcomes.length
  settled : ∀ i < j.outcomes.length, i ∉ m.pending →
    i ∈ m.finished ∧ ∃ r, j.outcomes[i]? = some (.done r)
  knows : Knows j.outcomes m.known (· ∈ m.pending)

/-- How a job can stop a run early without being cancelled. -/
inductive Job.Causes (j : Job ε β) : PoolStop → Prop where
  | notPositive : j.workers < 1 → j.Causes (.fault (.notPositive j.workers))
  | refused (r : Refusal) : 1 ≤ j.workers → r ∈ j.refusal? → j.Causes (.fault (.cannotStart r.why))
  | interrupted (i : Nat) : 1 ≤ j.workers → j.refusal? = none →
      j.outcomes[i]? = some .interrupted → j.Causes .interrupted

def StageFits (j : Job ε β) (m : Moment ε β) : Stage ε β → Prop
  | .entering => m.handed = 0
  | .handing => 1 ≤ j.workers ∧ ∀ r ∈ j.refusal, m.handed ≤ r.after
  | .looking => 1 ≤ j.workers ∧ j.refusal? = none ∧ m.handed = j.outcomes.length
  | .waiting =>
    1 ≤ j.workers ∧ j.refusal? = none ∧ m.handed = j.outcomes.length ∧ m.pending ≠ []
  | .closing stop => 1 ≤ j.workers ∧ j.Causes stop
  | .ended how =>
    (∃ stop, how = pure (.error stop) ∧ j.Causes stop) ∨
      (m.isCancelled = true ∧ ∃ left, how = cancelWith left) ∨
      (how = pure (.ok m.known) ∧ m.pending = [] ∧ m.handed = j.outcomes.length ∧
        1 ≤ j.workers ∧ j.refusal? = none)

/-- What holds at every moment of a run of a job. -/
structure Consistent (j : Job ε β) (m : Moment ε β) : Prop where
  workers : WorkersFit j m
  caller : CallerFits j m
  stage : StageFits j m m.stage

/-! ## 2. Refusals -/

theorem Job.refusal?_eq_none (h : ∀ r ∈ j.refusal, j.outcomes.length ≤ r.after) :
    j.refusal? = none := by
  unfold Job.refusal?
  rw [Option.filter_eq_none_iff]
  intro r hr
  have := h r hr
  simp only [decide_eq_true_eq]
  omega

theorem Job.mem_refusal? {r : Refusal} (hr : r ∈ j.refusal) (h : r.after < j.outcomes.length) :
    r ∈ j.refusal? := by
  unfold Job.refusal?
  rw [Option.mem_def, Option.filter_eq_some_iff]
  exact ⟨hr, decide_eq_true h⟩

/-! ## 3. Steps keep the invariant -/

theorem Step.workersFit (h : Step j a b) (ha : WorkersFit j a) : WorkersFit j b := by
  cases h with
  | hand _ hlt _ =>
    refine { ha with handed_le := hlt, taken := ?_ }
    show a.given ++ (a.queue ++ [a.handed]) = List.range (a.handed + 1)
    rw [← List.append_assoc, ha.taken, List.range_succ]
  | give i rest _ hqueue _ =>
    refine { ha with taken := ?_, finished_given := ?_ }
    · show a.given ++ [i] ++ rest = List.range a.handed
      rw [List.append_assoc, List.singleton_append, ← hqueue, ha.taken]
    · intro k hk
      exact List.mem_append_left _ (ha.finished_given k hk)
  | finish i o hgiven hnot ho hfree =>
    refine { ha with finished_nodup := ?_, finished_given := ?_, finished_free := ?_ }
    · exact List.nodup_cons.mpr ⟨hnot, ha.finished_nodup⟩
    · intro k hk
      rcases List.mem_cons.mp hk with rfl | hk
      · exact hgiven
      · exact ha.finished_given k hk
    · intro k hk
      rcases List.mem_cons.mp hk with rfl | hk
      · exact ⟨o, ho, hfree⟩
      · exact ha.finished_free k hk
  | _ => exact { ha with }

theorem eq_done_of_free {o : TaskOutcome ε β} (hfree : isStuck o = false)
    (hplain : isInterruption o = false) : ∃ r, o = .done r := by
  cases o with
  | done r => exact ⟨r, rfl⟩
  | interrupted => exact Bool.noConfusion hplain
  | stalls => exact Bool.noConfusion hfree
  | cancels => exact Bool.noConfusion hfree

theorem Step.callerFits (h : Step j a b) (hw : WorkersFit j a) (ha : CallerFits j a) :
    CallerFits j b := by
  cases h with
  | finish i o _ _ _ _ =>
    refine { ha with settled := ?_ }
    intro k hk hnot
    obtain ⟨hfin, hdone⟩ := ha.settled k hk hnot
    exact ⟨List.mem_cons_of_mem _ hfin, hdone⟩
  | wake arrived _ hnodup harr hplain =>
    -- An arrived task has a result, so it fills one place of the lists.
    have hdone : ∀ i ∈ arrived, ∃ r, j.outcomes[i]? = some (.done r) := by
      intro i hi
      obtain ⟨o, ho, hfree⟩ := hw.finished_free i (harr i hi).2
      obtain ⟨r, rfl⟩ := eq_done_of_free hfree (hplain i hi o ho)
      exact ⟨r, ho⟩
    have hmem : ∀ i, i ∈ (a.recorded j.outcomes arrived).pending ↔
        i ∈ a.pending ∧ i ∉ arrived := by
      intro i
      simp only [Moment.recorded, List.mem_filter, List.contains_eq_mem, Bool.not_eq_true',
        decide_eq_false_iff_not]
    refine ⟨?_, ?_, ?_⟩
    · intro i hi
      exact ha.pending_lt i ((hmem i).mp hi).1
    · intro i hi hnot
      by_cases hia : i ∈ arrived
      · exact ⟨(harr i hia).2, hdone i hia⟩
      · have hip : i ∉ a.pending := fun hip => hnot ((hmem i).mpr ⟨hip, hia⟩)
        exact ha.settled i hi hip
    · have hlearnt := ha.knows.foldl_learn arrived hnodup
        (fun i hi => ⟨(harr i hi).1, hdone i hi⟩)
      exact hlearnt.congr fun i => (hmem i).symm
  | _ => exact { ha with }

theorem Step.stageFits (h : Step j a b) (hw : WorkersFit j a) (hc : CallerFits j a)
    (ha : StageFits j a a.stage) : StageFits j b b.stage := by
  cases h with
  | refuseWorkers _ hlt => exact .inl ⟨_, rfl, .notPositive hlt⟩
  | returnEmpty hs hpos hnil =>
    have hle := hw.handed_le
    rw [hnil, List.length_nil] at hle
    -- Without inputs nothing was handed over, so this is a full return.
    have hpending : a.pending = [] := by
      apply List.eq_nil_iff_forall_not_mem.mpr
      intro i hi
      have hlt := hc.pending_lt i hi
      rw [hnil, List.length_nil] at hlt
      omega
    refine .inr (.inr ⟨rfl, hpending, ?_, hpos, Job.refusal?_eq_none fun r _ => ?_⟩)
    · show a.handed = j.outcomes.length
      rw [hnil, List.length_nil]
      omega
    · rw [hnil, List.length_nil]
      omega
  | enter hs hpos _ =>
    rw [hs] at ha
    have hzero : a.handed = 0 := ha
    refine ⟨hpos, fun r _ => ?_⟩
    show a.handed ≤ r.after
    omega
  | hand hs hlt hne =>
    rw [hs] at ha
    show StageFits j _ a.stage
    rw [hs]
    refine ⟨ha.1, fun r hr => ?_⟩
    have hle : a.handed ≤ r.after := ha.2 r hr
    have hne' : r.after ≠ a.handed := hne r hr
    show a.handed + 1 ≤ r.after
    omega
  | refuse r hs hlt hr hafter =>
    rw [hs] at ha
    exact ⟨ha.1, .refused r ha.1 (Job.mem_refusal? hr (by omega))⟩
  | start hs hall =>
    rw [hs] at ha
    refine ⟨ha.1, Job.refusal?_eq_none fun r hr => ?_, hall⟩
    have hle : a.handed ≤ r.after := ha.2 r hr
    omega
  -- A worker's step leaves the stage alone and all that the stage speaks of.
  | give i rest _ _ _ =>
    show StageFits j _ a.stage
    cases hs : a.stage <;> rw [hs] at ha <;> exact ha
  | finish i o _ _ _ _ =>
    show StageFits j _ a.stage
    cases hs : a.stage <;> rw [hs] at ha <;> exact ha
  | cancel =>
    show StageFits j _ a.stage
    cases hs : a.stage with
    -- A run that has ended stays ended in its way; it may count as cancelled late.
    | ended how =>
      rw [hs] at ha
      rcases ha with hstop | ⟨-, hcan⟩ | hall
      · exact .inl hstop
      · exact .inr (.inl ⟨rfl, hcan⟩)
      · exact .inr (.inr hall)
    | _ =>
      rw [hs] at ha
      exact ha
  | complete hs hnil =>
    rw [hs] at ha
    exact .inr (.inr ⟨rfl, hnil, ha.2.2, ha.1, ha.2.1⟩)
  | stop hs _ hcan => exact .inr (.inl ⟨hcan, _, rfl⟩)
  | wait hs hpending _ =>
    rw [hs] at ha
    exact ⟨ha.1, ha.2.1, ha.2.2, hpending⟩
  | wake arrived hs _ _ _ =>
    rw [hs] at ha
    exact ⟨ha.1, ha.2.1, ha.2.2.1⟩
  | interrupt i o hs _ _ ho hint =>
    rw [hs] at ha
    have : o = .interrupted := by cases o <;> first | rfl | exact Bool.noConfusion hint
    subst this
    exact ⟨ha.1, .interrupted i ha.1 ha.2.1 ho⟩
  | close how hs _ =>
    rw [hs] at ha
    exact .inl ⟨how, rfl, ha.2⟩

theorem Step.consistent (h : Step j a b) (ha : Consistent j a) : Consistent j b where
  workers := h.workersFit ha.workers
  caller := h.callerFits ha.workers ha.caller
  stage := h.stageFits ha.workers ha.caller ha.stage

/-! ## 4. Runs keep the invariant -/

theorem consistent_first (j : Job ε β) (isCancelled : Bool) :
    Consistent j (.first isCancelled j.outcomes.length) where
  workers := {
    handed_le := Nat.zero_le _
    taken := rfl
    finished_nodup := List.nodup_nil
    finished_given := fun _ hi => absurd hi List.not_mem_nil
    finished_free := fun _ hi => absurd hi List.not_mem_nil }
  caller := {
    pending_lt := fun _ hi => List.mem_range.mp hi
    settled := fun _ hi hnot => absurd (List.mem_range.mpr hi) hnot
    knows := (knows_blank j.outcomes).congr fun _ => List.mem_range.symm }
  stage := rfl

theorem Leads.consistent (h : Leads j a b) (ha : Consistent j a) : Consistent j b := by
  induction h with
  | refl => exact ha
  | tail _ hstep ih => exact hstep.consistent ih

theorem Leads.isCancelled_mono (h : Leads j a b) (ha : a.isCancelled = true) :
    b.isCancelled = true := by
  induction h with
  | refl => exact ha
  | tail _ hstep ih => exact hstep.isCancelled_mono ih

theorem Leads.trans {c : Moment ε β} (hab : Leads j a b) (hbc : Leads j b c) : Leads j a c := by
  induction hbc with
  | refl => exact hab
  | tail _ hstep ih => exact .tail ih hstep

end VideoWall.Pool
