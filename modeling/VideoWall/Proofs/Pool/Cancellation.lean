import VideoWall.Proofs.Pool.Alignment

/-!
# When a run sees that it is cancelled

The caller of a pool looks at the cancellation before each of its waits, and nowhere else. A run that is
cancelled anywhere but in a wait, while it has tasks to wait for, ends as cancelled; one that is
cancelled in a wait comes to its results all the same if this wait brings all of them. Main statements:
`Leads.isBoundToStop`, `Consistent.exists_return_iff` and `Consistent.canEnd_of_cancelled`.
-/

namespace VideoWall.Pool

variable {ε β : Type} {j : Job ε β} {m m' a b : Moment ε β}

/-! ## 1. Cancelled before a look -/

def Stage.isBeforeLook : Stage ε β → Bool
  | entering | handing | looking => true
  | waiting | closing _ | ended _ => false

/-- Whether a run is bound to end as cancelled: it is cancelled, has tasks to wait for and is before a
look, or it has ended so. -/
inductive IsBoundToStop (m : Moment ε β) : Prop where
  | before : m.isCancelled = true → m.pending ≠ [] → m.stage.isBeforeLook = true → IsBoundToStop m
  | stopped (left : Nat) : m.stage = .ended (cancelWith left) → IsBoundToStop m

theorem not_isBeforeLook {s : Stage ε β} (hs : m.stage = s) (h : m.stage.isBeforeLook = true)
    (hfalse : s.isBeforeLook = false) : False := by
  rw [hs, hfalse] at h
  exact Bool.false_ne_true h

theorem Step.isBoundToStop (h : Step j a b) (hworkers : 1 ≤ j.workers) (hstart : j.refusal? = none)
    (hfits : CallerFits j a) (ha : IsBoundToStop a) : IsBoundToStop b := by
  cases ha with
  | stopped left hstage =>
    -- After the end the caller does nothing.
    cases h with
    | give i rest hgoing _ _ =>
      rw [hstage] at hgoing
      cases hgoing
    | finish i o _ _ _ _ => exact .stopped left hstage
    | cancel => exact .stopped left hstage
    | refuseWorkers hs _ | returnEmpty hs _ _ | enter hs _ _ | hand hs _ _ | refuse _ hs _ _ _
    | start hs _ | complete hs _ | stop hs _ _ | wait hs _ _ | wake _ hs _ _ _
    | interrupt _ _ hs _ _ _ _ | close _ hs _ =>
      rw [hstage] at hs
      cases hs
  | before hcan hpending hbefore =>
    cases h with
    | refuseWorkers _ hlt => omega
    | returnEmpty _ _ hnil =>
      obtain ⟨i, hi⟩ := List.exists_mem_of_ne_nil _ hpending
      have hlt := hfits.pending_lt i hi
      rw [hnil, List.length_nil] at hlt
      omega
    | enter _ _ _ => exact .before hcan hpending rfl
    | hand _ _ _ => exact .before hcan hpending hbefore
    | refuse r _ hlt hr hafter =>
      have hsome := Job.mem_refusal? hr (hafter ▸ hlt)
      rw [hstart] at hsome
      cases hsome
    | start _ _ => exact .before hcan hpending rfl
    | give i rest _ _ _ => exact .before hcan hpending hbefore
    | finish i o _ _ _ _ => exact .before hcan hpending hbefore
    | cancel => exact .before rfl hpending hbefore
    | complete _ hnil => exact absurd hnil hpending
    | stop _ _ _ => exact .stopped _ rfl
    | wait _ _ hfalse => exact absurd (hcan.symm.trans hfalse) (Ne.symm Bool.false_ne_true)
    | wake _ hs _ _ _ => exact (not_isBeforeLook hs hbefore rfl).elim
    | interrupt _ _ hs _ _ _ _ => exact (not_isBeforeLook hs hbefore rfl).elim
    | close _ hs _ => exact (not_isBeforeLook hs hbefore rfl).elim

theorem Leads.isBoundToStop (h : Leads j a b) (hworkers : 1 ≤ j.workers)
    (hstart : j.refusal? = none) (hfits : Consistent j a) (ha : IsBoundToStop a) :
    IsBoundToStop b := by
  induction h with
  | refl => exact ha
  | tail hleads hstep ih =>
    exact hstep.isBoundToStop hworkers hstart (hleads.consistent hfits).caller ih

theorem IsBoundToStop.eq_cancelWith (h : IsBoundToStop m)
    {how : Logged (Except PoolStop (Returned ε β))} (hs : m.stage = .ended how) :
    ∃ left, how = cancelWith left := by
  cases h with
  | before _ _ hbefore => exact (not_isBeforeLook hs hbefore rfl).elim
  | stopped left hstage => exact ⟨left, Stage.ended.inj (hs.symm.trans hstage)⟩

/-! ## 2. Cancelled while tasks are unfinished -/

theorem Consistent.pending_of_unfinished (h : Consistent j m) {i : Nat}
    (hi : i < j.outcomes.length) (hunfinished : i ∉ m.finished) : i ∈ m.pending :=
  Decidable.byContradiction fun hnot => hunfinished (h.caller.settled i hi hnot).1

theorem Job.not_causes (hworkers : 1 ≤ j.workers) (hstart : j.refusal? = none)
    (hplain : ∀ o ∈ j.outcomes, isInterruption o = false) {stop : PoolStop} : ¬ j.Causes stop := by
  rintro (hlt | ⟨r, -, hr⟩ | ⟨i, -, -, hi⟩)
  · omega
  · rw [hstart] at hr
    cases hr
  · exact Bool.noConfusion (hplain _ (List.mem_of_getElem? hi))

/-- A run that is cancelled outside a wait while some task is unfinished is bound to end so. -/
theorem Consistent.isBoundToStop (h : Consistent j m) (hworkers : 1 ≤ j.workers)
    (hstart : j.refusal? = none) (hplain : ∀ o ∈ j.outcomes, isInterruption o = false)
    (hcan : m.isCancelled = true) {i : Nat} (hi : i < j.outcomes.length)
    (hunfinished : i ∉ m.finished) (hwait : m.stage ≠ .waiting) : IsBoundToStop m := by
  have hmem := h.pending_of_unfinished hi hunfinished
  have hpending : m.pending ≠ [] := List.ne_nil_of_mem hmem
  have hstage := h.stage
  cases hs : m.stage with
  | entering => exact .before hcan hpending (by rw [hs]; rfl)
  | handing => exact .before hcan hpending (by rw [hs]; rfl)
  | looking => exact .before hcan hpending (by rw [hs]; rfl)
  | waiting => exact absurd hs hwait
  | closing stop =>
    rw [hs] at hstage
    exact absurd hstage.2 (Job.not_causes hworkers hstart hplain)
  | ended how =>
    rw [hs] at hstage
    -- It has ended as cancelled: there is no other cause to stop, and it has not all results.
    rcases hstage with ⟨stop, -, hcauses⟩ | ⟨-, left, hhow⟩ | ⟨-, hnil, -⟩
    · exact absurd hcauses (Job.not_causes hworkers hstart hplain)
    · exact .stopped left (hhow ▸ hs)
    · exact absurd hnil hpending

/-! ## 3. Cancelled in a wait -/

theorem Consistent.exists_all_finished (h : Consistent j m)
    (hs : m.stage = .looking ∨ m.stage = .waiting) (hfree : ∀ o ∈ j.outcomes, isStuck o = false) :
    ∃ m', Leads j m m' ∧ m'.stage = m.stage ∧ m'.pending = m.pending ∧
      m'.isCancelled = m.isCancelled ∧ ∀ i ∈ m'.pending, i ∈ m'.finished := by
  -- The induction is on what is left to do; the workers alone do it.
  induction hn : m.left j using Nat.strongRecOn generalizing m with
  | ind n ih =>
    by_cases hall : ∀ i ∈ m.pending, i ∈ m.finished
    · exact ⟨m, .refl m, rfl, rfl, rfl, hall⟩
    · obtain ⟨i, hi⟩ := Classical.not_forall.mp hall
      obtain ⟨hi, hnot⟩ := Classical.not_imp.mp hi
      obtain ⟨hpos, hhanded, hgoing⟩ : 1 ≤ j.workers ∧ m.handed = j.outcomes.length ∧
          m.stage.isEnd = false := by
        have hstage := h.stage
        rcases hs with hs | hs
        · rw [hs] at hstage ⊢
          exact ⟨hstage.1, hstage.2.2, rfl⟩
        · rw [hs] at hstage ⊢
          exact ⟨hstage.1, hstage.2.2.1, rfl⟩
      have hlt : i < m.handed := hhanded ▸ h.caller.pending_lt i hi
      obtain ⟨m₁, hstep, hstage₁, hpending₁, hcan₁, hless⟩ :=
        h.workers.advances hfree hpos hgoing hlt hnot
      obtain ⟨m₂, hleads, hstage₂, hpending₂, hcan₂, hall₂⟩ :=
        ih _ (hn ▸ hless) (hstep.consistent h) (hstage₁ ▸ hs) rfl
      exact ⟨m₂, (Leads.tail (.refl m) hstep).trans hleads, hstage₂.trans hstage₁,
        hpending₂.trans hpending₁, hcan₂.trans hcan₁, hall₂⟩

theorem Consistent.exists_done (h : Consistent j m)
    (hdone : ∀ i ∈ m.pending, ∃ r, j.outcomes[i]? = some (.done r)) :
    ∀ o ∈ j.outcomes, ∃ r, o = .done r := by
  intro o ho
  obtain ⟨i, hi⟩ := List.mem_iff_getElem?.mp ho
  obtain ⟨hlt, -⟩ := List.getElem?_eq_some_iff.mp hi
  -- What the caller no longer waits for has come back with a result.
  have hresult : ∃ r, j.outcomes[i]? = some (.done r) := by
    by_cases hmem : i ∈ m.pending
    · exact hdone i hmem
    · exact (h.caller.settled i hlt hmem).2
  obtain ⟨r, hr⟩ := hresult
  exact ⟨r, Option.some.inj (hi.symm.trans hr)⟩

/-- A wait that brings all that is pending ends a run normally, cancelled or not. -/
theorem exists_return_of_finished (hs : m.stage = .waiting)
    (hlt : ∀ i ∈ m.pending, i < j.outcomes.length) (hfinished : ∀ i ∈ m.pending, i ∈ m.finished)
    (hplain : ∀ o ∈ j.outcomes, isInterruption o = false) :
    ∃ m' returned, Leads j m m' ∧ m'.stage = .ended (pure (.ok returned)) := by
  -- The wait brings everything at once.
  let arrived := (List.range j.outcomes.length).filter (m.pending.contains ·)
  have hmem : ∀ i, i ∈ arrived ↔ i ∈ m.pending := by
    intro i
    simp only [arrived, List.mem_filter, List.mem_range, List.contains_eq_mem, decide_eq_true_eq]
    exact ⟨fun h => h.2, fun h => ⟨hlt i h, h⟩⟩
  have hwake : Step j m (m.recorded j.outcomes arrived) := by
    apply Step.wake m arrived hs (List.nodup_range.filter _)
    · intro i hi
      have hi := (hmem i).mp hi
      exact ⟨hi, hfinished i hi⟩
    · intro i _ o ho
      exact hplain o (List.mem_of_getElem? ho)
  have hnone : (m.recorded j.outcomes arrived).pending = [] := by
    apply List.filter_eq_nil_iff.mpr
    intro i hi
    simp only [List.contains_eq_mem, (hmem i).mpr hi, decide_true, Bool.not_true,
      Bool.false_eq_true, not_false_eq_true]
  exact ⟨_, _, ((Leads.refl m).tail hwake).tail (.complete _ rfl hnone), rfl⟩

/-- A run in a wait can still come to its results if and only if all that it waits for comes back. -/
theorem Consistent.exists_return_iff (h : Consistent j m) (hs : m.stage = .waiting)
    (hplain : ∀ o ∈ j.outcomes, isInterruption o = false) :
    (∃ m' returned, Leads j m m' ∧ m'.stage = .ended (pure (.ok returned))) ↔
      ∀ i ∈ m.pending, ∃ r, j.outcomes[i]? = some (.done r) := by
  constructor
  · rintro ⟨m', returned, hleads, hs'⟩ i hi
    have h' := hleads.consistent h
    have hstage := h'.stage
    rw [hs'] at hstage
    -- Of the three kinds of end only that with nothing pending is a return.
    rcases hstage with ⟨stop, heq, -⟩ | ⟨-, left, heq⟩ | ⟨-, hnil, -⟩
    · cases heq
    · cases heq
    · have hnot : i ∉ m'.pending := by
        rw [hnil]
        exact List.not_mem_nil
      exact (h'.caller.settled i (h.caller.pending_lt i hi) hnot).2
  · intro hdone
    have hfree : ∀ o ∈ j.outcomes, isStuck o = false := by
      intro o ho
      obtain ⟨r, rfl⟩ := h.exists_done hdone o ho
      rfl
    obtain ⟨m₁, hleads, hs₁, -, -, hfinished⟩ := h.exists_all_finished (.inr hs) hfree
    have hlt := (hleads.consistent h).caller.pending_lt
    obtain ⟨m₂, returned, hleads₂, hs₂⟩ :=
      exists_return_of_finished (hs₁.trans hs) hlt hfinished hplain
    exact ⟨m₂, returned, hleads.trans hleads₂, hs₂⟩

/-! ## 4. A cancelled run ends -/

def CanEnd (j : Job ε β) (m : Moment ε β) : Prop :=
  ∃ m' how, Leads j m m' ∧ m'.stage = .ended how

theorem Leads.canEnd (h : Leads j a b) (hb : CanEnd j b) : CanEnd j a := by
  obtain ⟨m', how, hleads, hs⟩ := hb
  exact ⟨m', how, h.trans hleads, hs⟩

theorem canEnd_of_ended {how : Logged (Except PoolStop (Returned ε β))} (hs : m.stage = .ended how) :
    CanEnd j m :=
  ⟨m, how, .refl m, hs⟩

theorem exists_looking_of_handing (hs : m.stage = .handing) (hle : m.handed ≤ j.outcomes.length)
    (hstart : j.refusal? = none) :
    ∃ m', Leads j m m' ∧ m'.stage = .looking ∧ m'.isCancelled = m.isCancelled ∧
      m'.pending = m.pending ∧ m'.finished = m.finished := by
  -- The induction is on the inputs that have not been handed over.
  induction hn : j.outcomes.length - m.handed generalizing m with
  | zero => exact ⟨_, (Leads.refl m).tail (.start m hs (by omega)), rfl, rfl, rfl, rfl⟩
  | succ n ih =>
    have hlt : m.handed < j.outcomes.length := by omega
    have htaken : ∀ r ∈ j.refusal, r.after ≠ m.handed := by
      intro r hr hafter
      have hsome := Job.mem_refusal? hr (hafter ▸ hlt)
      rw [hstart] at hsome
      cases hsome
    let next : Moment ε β := { m with handed := m.handed + 1, queue := m.queue ++ [m.handed] }
    have hhand : Leads j m next := (Leads.refl m).tail (.hand m hs hlt htaken)
    have hless : j.outcomes.length - next.handed = n := by
      show j.outcomes.length - (m.handed + 1) = n
      omega
    obtain ⟨m', hleads, hs', hcan, hpending, hfinished⟩ := ih (m := next) hs hlt hless
    exact ⟨m', hhand.trans hleads, hs', hcan, hpending, hfinished⟩

theorem canEnd_of_looking (hs : m.stage = .looking) (hcan : m.isCancelled = true) : CanEnd j m := by
  by_cases hnil : m.pending = []
  · exact ((Leads.refl m).tail (.complete m hs hnil)).canEnd (canEnd_of_ended rfl)
  · exact ((Leads.refl m).tail (.stop m hs hnil hcan)).canEnd (canEnd_of_ended rfl)

theorem canEnd_of_handing (hs : m.stage = .handing) (hcan : m.isCancelled = true)
    (hle : m.handed ≤ j.outcomes.length) (hstart : j.refusal? = none) : CanEnd j m := by
  obtain ⟨m', hleads, hs', hcan', -, -⟩ := exists_looking_of_handing hs hle hstart
  exact hleads.canEnd (canEnd_of_looking hs' (hcan'.trans hcan))

theorem Consistent.canEnd_of_cancelled (h : Consistent j m) (hworkers : 1 ≤ j.workers)
    (hstart : j.refusal? = none) (hplain : ∀ o ∈ j.outcomes, isInterruption o = false)
    (hcan : m.isCancelled = true) : CanEnd j m := by
  have hstage := h.stage
  cases hs : m.stage with
  | entering =>
    rw [hs] at hstage
    have hzero : m.handed = 0 := hstage
    by_cases hnil : j.outcomes = []
    · exact ((Leads.refl m).tail (.returnEmpty m hs hworkers hnil)).canEnd (canEnd_of_ended rfl)
    · refine ((Leads.refl m).tail (.enter m hs hworkers hnil)).canEnd
        (canEnd_of_handing rfl hcan ?_ hstart)
      show m.handed ≤ j.outcomes.length
      omega
  | handing => exact canEnd_of_handing hs hcan h.workers.handed_le hstart
  | looking => exact canEnd_of_looking hs hcan
  | waiting =>
    -- A wait may bring nothing, and then the caller looks.
    have hwake : Leads j m _ := (Leads.refl m).tail (.wake m [] hs .nil (by nofun) (by nofun))
    exact hwake.canEnd (canEnd_of_looking rfl hcan)
  | closing stop =>
    rw [hs] at hstage
    exact absurd hstage.2 (Job.not_causes hworkers hstart hplain)
  | ended how => exact canEnd_of_ended hs

/-! ## 5. Every run can be cancelled too late -/

theorem exists_cancelled_in_wait (hne : j.outcomes ≠ []) (hworkers : 1 ≤ j.workers)
    (hstart : j.refusal? = none) :
    ∃ m, Leads j (.first false j.outcomes.length) m ∧ m.stage = .waiting ∧
      m.isCancelled = true ∧ m.finished = [] := by
  have hpending : List.range j.outcomes.length ≠ [] :=
    mt List.range_eq_nil.mp (mt List.length_eq_zero_iff.mp hne)
  let entered : Moment ε β := { Moment.first false j.outcomes.length with stage := .handing }
  have henter : Leads j (.first false j.outcomes.length) entered :=
    (Leads.refl _).tail (.enter _ rfl hworkers hne)
  obtain ⟨m, hleads, hs, hcan, hall, hfinished⟩ :=
    exists_looking_of_handing (m := entered) rfl (Nat.zero_le _) hstart
  have hwait : Step j m _ := .wait m hs (hall ▸ hpending) hcan
  exact ⟨_, ((henter.trans hleads).tail hwait).tail (.cancel _), rfl, rfl, hfinished⟩

/-- Whatever a job is whose tasks come back: a run of it can be cancelled before any of them has, and
return the results of all of them. -/
theorem exists_unseen_cancellation {rs : List (Except ε β)} (hj : j.outcomes = rs.map .done)
    (hne : j.outcomes ≠ []) (hworkers : 1 ≤ j.workers) (hstart : j.refusal? = none) :
    ∃ m m', Leads j (.first false j.outcomes.length) m ∧ m.isCancelled = true ∧ m.finished = [] ∧
      Leads j m m' ∧ m'.isCancelled = true ∧ m'.stage = .ended (pure (.ok (.ofResults rs))) := by
  obtain ⟨m, hrun, hs, hcan, hfinished⟩ := exists_cancelled_in_wait hne hworkers hstart
  have hm := hrun.consistent (consistent_first j false)
  have hresult : ∀ o ∈ j.outcomes, ∃ r, o = .done r := by
    intro o ho
    rw [hj] at ho
    obtain ⟨r, -, rfl⟩ := List.mem_map.mp ho
    exact ⟨r, rfl⟩
  have hplain : ∀ o ∈ j.outcomes, isInterruption o = false := by
    intro o ho
    obtain ⟨r, rfl⟩ := hresult o ho
    rfl
  have hdone : ∀ i ∈ m.pending, ∃ r, j.outcomes[i]? = some (.done r) := by
    intro i hi
    have hlt := hm.caller.pending_lt i hi
    obtain ⟨r, hr⟩ := hresult _ (List.getElem_mem hlt)
    exact ⟨r, by rw [List.getElem?_eq_getElem hlt, hr]⟩
  obtain ⟨m', returned, hleads, hend⟩ := (hm.exists_return_iff hs hplain).mpr hdone
  have hm' := hleads.consistent hm
  have hstage := hm'.stage
  rw [hend] at hstage
  rcases hstage with ⟨stop, heq, -⟩ | ⟨-, left, heq⟩ | ⟨heq, hnil, -⟩
  · cases heq
  · cases heq
  · rw [heq, hm'.known_eq hj hnil] at hend
    exact ⟨m, m', hrun, hcan, hfinished, hleads, hleads.isCancelled_mono hcan, hend⟩

end VideoWall.Pool
