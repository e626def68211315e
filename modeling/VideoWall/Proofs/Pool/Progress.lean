import VideoWall.Proofs.Pool.Consistency

/-!
# Runs of the pool can end

A run in which no task is stuck never comes to a dead end: at every moment before its end some step is
possible that nobody has to cancel the run for and that leaves less to do. Main statement:
`Consistent.exists_end`.
-/

namespace VideoWall.Pool

variable {ε β : Type} {j : Job ε β} {m : Moment ε β}

def Stage.distance : Stage ε β → Nat
  | entering => 5
  | handing => 4
  | looking => 3
  | waiting => 2
  | closing _ => 1
  | ended _ => 0

def Moment.left (j : Job ε β) (m : Moment ε β) : Nat :=
  m.stage.distance + (j.outcomes.length - m.handed) + (j.outcomes.length - m.given.length) +
    (j.outcomes.length - m.finished.length) + 2 * m.pending.length

/-- A step that leaves less to do, and the run as cancelled as it was. -/
def Advances (j : Job ε β) (m : Moment ε β) : Prop :=
  ∃ m', Step j m m' ∧ m'.isCancelled = m.isCancelled ∧ m'.left j < m.left j

/-- Such a step of the workers, in which the caller stays where it is. -/
def WorkersAdvance (j : Job ε β) (m : Moment ε β) : Prop :=
  ∃ m', Step j m m' ∧ m'.stage = m.stage ∧ m'.pending = m.pending ∧
    m'.isCancelled = m.isCancelled ∧ m'.left j < m.left j

theorem WorkersAdvance.advances (h : WorkersAdvance j m) : Advances j m := by
  obtain ⟨m', hstep, -, -, hcan, hless⟩ := h
  exact ⟨m', hstep, hcan, hless⟩

/-! ## 1. The workers -/

theorem WorkersFit.given_nodup (h : WorkersFit j m) : m.given.Nodup := by
  have hrange : (m.given ++ m.queue).Nodup := h.taken ▸ List.nodup_range
  exact (List.nodup_append.mp hrange).1

theorem WorkersFit.length_taken (h : WorkersFit j m) :
    m.given.length + m.queue.length = m.handed := by
  rw [← List.length_append, h.taken, List.length_range]

theorem WorkersFit.advances_finish (h : WorkersFit j m)
    (hfree : ∀ o ∈ j.outcomes, isStuck o = false) {i : Nat} (hi : i ∈ m.given)
    (hnot : i ∉ m.finished) : WorkersAdvance j m := by
  have htaken := h.length_taken
  have hle := h.handed_le
  have hlt : i < j.outcomes.length := by
    have hmem : i ∈ List.range m.handed := h.taken ▸ List.mem_append_left _ hi
    have := List.mem_range.mp hmem
    omega
  -- The task is among those given, so fewer than all have come back.
  have hroom : m.finished.length < m.given.length := by
    have hcons : (i :: m.finished).Nodup := List.nodup_cons.mpr ⟨hnot, h.finished_nodup⟩
    have hsub : i :: m.finished ⊆ m.given := List.cons_subset.mpr ⟨hi, h.finished_given⟩
    exact hcons.length_le_of_subset hsub
  refine ⟨_, .finish m i j.outcomes[i] hi hnot (List.getElem?_eq_getElem hlt)
    (hfree _ (List.getElem_mem hlt)), rfl, rfl, rfl, ?_⟩
  simp only [Moment.left, List.length_cons]
  omega

theorem WorkersFit.advances_give (h : WorkersFit j m) (hpos : 1 ≤ j.workers)
    (hgoing : m.stage.isEnd = false) (hall : ∀ i ∈ m.given, i ∈ m.finished)
    (hqueue : m.queue ≠ []) : WorkersAdvance j m := by
  obtain ⟨i, rest, hi⟩ := List.exists_cons_of_ne_nil hqueue
  have htaken := h.length_taken
  have hle := h.handed_le
  rw [hi, List.length_cons] at htaken
  have hbusy : m.busy < j.crew := by
    have := h.given_nodup.length_le_of_subset hall
    simp only [Moment.busy, Job.crew]
    omega
  refine ⟨_, .give m i rest hgoing hi hbusy, rfl, rfl, rfl, ?_⟩
  simp only [Moment.left, List.length_append, List.length_singleton]
  omega

theorem WorkersFit.advances (h : WorkersFit j m) (hfree : ∀ o ∈ j.outcomes, isStuck o = false)
    (hpos : 1 ≤ j.workers) (hgoing : m.stage.isEnd = false) {i : Nat} (hi : i < m.handed)
    (hnot : i ∉ m.finished) : WorkersAdvance j m := by
  by_cases hall : ∀ k ∈ m.given, k ∈ m.finished
  · refine h.advances_give hpos hgoing hall ?_
    have hmem : i ∈ m.given ++ m.queue := h.taken ▸ List.mem_range.mpr hi
    rcases List.mem_append.mp hmem with hgiven | hqueue
    · exact absurd (hall i hgiven) hnot
    · exact List.ne_nil_of_mem hqueue
  · obtain ⟨k, hk⟩ := Classical.not_forall.mp hall
    obtain ⟨hgiven, hk⟩ := Classical.not_imp.mp hk
    exact h.advances_finish hfree hgiven hk

/-! ## 2. The caller -/

theorem advances_handing (hs : m.stage = .handing) (hle : m.handed ≤ j.outcomes.length) :
    Advances j m := by
  by_cases hall : m.handed = j.outcomes.length
  · refine ⟨_, .start m hs hall, rfl, ?_⟩
    simp only [Moment.left, hs, Stage.distance]
    omega
  · have hlt : m.handed < j.outcomes.length := by omega
    by_cases hr : ∃ r ∈ j.refusal, r.after = m.handed
    · obtain ⟨r, hmem, hafter⟩ := hr
      refine ⟨_, .refuse m r hs hlt hmem hafter, rfl, ?_⟩
      simp only [Moment.left, hs, Stage.distance]
      omega
    · refine ⟨_, .hand m hs hlt fun r hmem hafter => hr ⟨r, hmem, hafter⟩, rfl, ?_⟩
      simp only [Moment.left]
      omega

theorem advances_looking (hs : m.stage = .looking) : Advances j m := by
  by_cases hnil : m.pending = []
  · refine ⟨_, .complete m hs hnil, rfl, ?_⟩
    simp only [Moment.left, Moment.stopped, hs, Stage.distance]
    omega
  · by_cases hcan : m.isCancelled = true
    · refine ⟨_, .stop m hs hnil hcan, rfl, ?_⟩
      simp only [Moment.left, Moment.stopped, hs, Stage.distance]
      omega
    · refine ⟨_, .wait m hs hnil (Bool.eq_false_iff.mpr hcan), rfl, ?_⟩
      simp only [Moment.left, hs, Stage.distance]
      omega

theorem advances_waiting (hs : m.stage = .waiting) {i : Nat} {o : TaskOutcome ε β}
    (hi : i ∈ m.pending) (hfin : i ∈ m.finished) (ho : j.outcomes[i]? = some o) :
    Advances j m := by
  cases hint : isInterruption o with
  | true =>
    refine ⟨_, .interrupt m i o hs hi hfin ho hint, rfl, ?_⟩
    simp only [Moment.left, hs, Stage.distance]
    omega
  | false =>
    have harr : ∀ k ∈ [i], k ∈ m.pending ∧ k ∈ m.finished := by
      intro k hk
      rw [List.mem_singleton.mp hk]
      exact ⟨hi, hfin⟩
    have hplain : ∀ k ∈ [i], ∀ o', j.outcomes[k]? = some o' → isInterruption o' = false := by
      intro k hk o' ho'
      rw [List.mem_singleton.mp hk, ho] at ho'
      rw [← Option.some.inj ho', hint]
    refine ⟨_, .wake m [i] hs (List.pairwise_singleton _ i) harr hplain, rfl, ?_⟩
    have hshorter : (m.pending.filter fun k => !List.contains [i] k).length < m.pending.length := by
      apply List.length_filter_lt_length_iff_exists.mpr
      exact ⟨i, hi, by simp⟩
    simp only [Moment.left, Moment.recorded, hs, Stage.distance]
    omega

/-! ## 3. Both together -/

/-- Before the end of a run in which no task is stuck, some step leaves less to do. -/
theorem Consistent.advances (h : Consistent j m) (hfree : ∀ o ∈ j.outcomes, isStuck o = false)
    (hgoing : m.stage.isEnd = false) : Advances j m := by
  have hstage := h.stage
  cases hs : m.stage with
  | entering =>
    by_cases hpos : 1 ≤ j.workers
    · by_cases hnil : j.outcomes = []
      · refine ⟨_, .returnEmpty m hs hpos hnil, rfl, ?_⟩
        simp only [Moment.left, Moment.stopped, hs, Stage.distance]
        omega
      · refine ⟨_, .enter m hs hpos hnil, rfl, ?_⟩
        simp only [Moment.left, hs, Stage.distance]
        omega
    · refine ⟨_, .refuseWorkers m hs (by omega), rfl, ?_⟩
      simp only [Moment.left, Moment.stopped, hs, Stage.distance]
      omega
  | handing => exact advances_handing hs h.workers.handed_le
  | looking => exact advances_looking hs
  | waiting =>
    rw [hs] at hstage
    obtain ⟨hpos, -, hall, hpending⟩ := hstage
    -- The caller wakes once one of its tasks is back; until then a worker can go on.
    by_cases hback : ∀ i ∈ m.pending, i ∉ m.finished
    · obtain ⟨i, hi⟩ := List.exists_mem_of_ne_nil m.pending hpending
      have hlt : i < m.handed := hall ▸ h.caller.pending_lt i hi
      exact (h.workers.advances hfree hpos hgoing hlt (hback i hi)).advances
    · obtain ⟨i, hi⟩ := Classical.not_forall.mp hback
      obtain ⟨hi, hfin⟩ := Classical.not_imp.mp hi
      have hlt := h.caller.pending_lt i hi
      exact advances_waiting hs hi (Classical.not_not.mp hfin) (List.getElem?_eq_getElem hlt)
  | closing how =>
    rw [hs] at hstage
    -- The pool closes once every task is back; until then a worker can go on.
    by_cases hback : ∀ i < m.handed, i ∈ m.finished
    · refine ⟨_, .close m how hs hback, rfl, ?_⟩
      simp only [Moment.left, Moment.stopped, hs, Stage.distance]
      omega
    · obtain ⟨i, hi⟩ := Classical.not_forall.mp hback
      obtain ⟨hlt, hnot⟩ := Classical.not_imp.mp hi
      exact (h.workers.advances hfree hstage.1 hgoing hlt hnot).advances
  | ended how =>
    rw [hs] at hgoing
    exact Bool.noConfusion hgoing

/-- From every moment of a run in which no task is stuck, the run can come to an end without being
cancelled on the way. -/
theorem Consistent.exists_end (h : Consistent j m) (hfree : ∀ o ∈ j.outcomes, isStuck o = false) :
    ∃ m' how, Leads j m m' ∧ m'.isCancelled = m.isCancelled ∧ m'.stage = .ended how := by
  -- The induction is on what is left to do.
  induction hn : m.left j using Nat.strongRecOn generalizing m with
  | ind n ih =>
    cases hend : m.stage.isEnd with
    | true =>
      cases hs : m.stage with
      | ended how => exact ⟨m, how, .refl m, rfl, hs⟩
      | _ =>
        rw [hs] at hend
        exact Bool.noConfusion hend
    | false =>
      obtain ⟨m₁, hstep, hcan, hless⟩ := h.advances hfree hend
      obtain ⟨m₂, how, hleads, hcan₂, hs⟩ := ih _ (hn ▸ hless) (hstep.consistent h) rfl
      exact ⟨m₂, how, (Leads.tail (.refl m) hstep).trans hleads, hcan₂.trans hcan, hs⟩

end VideoWall.Pool
