import VideoWall.Proofs.Pool.Progress

/-!
# Every run of the pool ends alike

A run that nobody cancels, on tasks that all come back, ends in one way only, whatever the order in
which the tasks finish and the waits bring them: the way that `Pool.run` computes. Main statements:
`Job.endsWith_iff`, and `every_run_returns_map` for a task that is given every input of a list.
-/

namespace VideoWall.Pool

variable {α ε β : Type} {j : Job ε β} {m : Moment ε β} {rs : List (Except ε β)}

/-! ## 1. What the pool computes for tasks that come back -/

theorem any_map_done (p : TaskOutcome ε β → Bool) (hp : ∀ r, p (.done r) = false)
    (rs : List (Except ε β)) : (rs.map TaskOutcome.done).any p = false := by
  rw [List.any_map, List.any_eq_false]
  intro r _
  rw [Function.comp_apply, hp r]
  exact Bool.false_ne_true

theorem filterMap_result?_map_done (rs : List (Except ε β)) :
    (rs.map TaskOutcome.done).filterMap result? = rs := by
  rw [List.filterMap_map]
  exact List.filterMap_some

theorem runStarted_of_done (hj : j.outcomes = rs.map .done) {c : Cancellation}
    (hc : c.isSet = false) : runStarted j c = pure (.ok (.ofResults rs)) := by
  have hasks : j.outcomes.any asksToCancel = false := hj ▸ any_map_done _ (fun _ => rfl) rs
  have hstuck : j.outcomes.any isStuck = false := hj ▸ any_map_done _ (fun _ => rfl) rs
  have hint : j.outcomes.any isInterruption = false := hj ▸ any_map_done _ (fun _ => rfl) rs
  unfold runStarted
  rw [hc, hasks, hstuck, hint, Bool.and_false, Bool.or_false, if_neg Bool.false_ne_true,
    if_neg Bool.false_ne_true, if_neg Bool.false_ne_true, hj, filterMap_result?_map_done]

theorem run_of_done (hj : j.outcomes = rs.map .done) {c : Cancellation} (hc : c.isSet = false) :
    run j c =
      if j.workers < 1 then pure (.error (.fault (.notPositive j.workers)))
      else match j.refusal? with
        | some r => pure (.error (.fault (.cannotStart r.why)))
        | none => pure (.ok (.ofResults rs)) := by
  unfold run
  by_cases hpos : j.workers < 1
  · rw [if_pos hpos, if_pos hpos]
  · rw [if_neg hpos, if_neg hpos]
    cases hnil : j.outcomes.isEmpty with
    | true =>
      have hempty : j.outcomes = [] := List.isEmpty_iff.mp hnil
      obtain rfl : rs = [] := List.map_eq_nil_iff.mp (hj ▸ hempty)
      have hnone : j.refusal? = none := by
        apply Job.refusal?_eq_none
        intro r _
        rw [hempty]
        exact Nat.zero_le _
      rw [if_pos rfl, hnone]
      rfl
    | false =>
      rw [if_neg Bool.false_ne_true]
      cases hr : j.refusal? with
      | some r =>
        have hfree : (j.outcomes.take r.after).any isStuck = false := by
          rw [hj, ← List.map_take]
          exact any_map_done isStuck (fun _ => rfl) _
        simp only [hfree, Bool.false_eq_true, if_false]
      | none => exact runStarted_of_done hj hc

/-! ## 2. How a run ends -/

theorem isStuck_of_done (hj : j.outcomes = rs.map .done) : ∀ o ∈ j.outcomes, isStuck o = false := by
  intro o ho
  rw [hj] at ho
  obtain ⟨r, -, rfl⟩ := List.mem_map.mp ho
  rfl

theorem Consistent.given_eq_range (h : Consistent j m) (hpending : m.pending = [])
    (hall : m.handed = j.outcomes.length) : m.given = List.range j.outcomes.length := by
  have htaken := h.workers.taken
  rw [hall] at htaken
  have hnodup : (m.given ++ m.queue).Nodup := htaken ▸ List.nodup_range
  have hqueue : m.queue = [] := by
    apply List.eq_nil_iff_forall_not_mem.mpr
    intro i hi
    have hlt : i < j.outcomes.length := by
      have hmem : i ∈ m.given ++ m.queue := List.mem_append_right _ hi
      rw [htaken] at hmem
      exact List.mem_range.mp hmem
    have hnot : i ∉ m.pending := by
      rw [hpending]
      exact List.not_mem_nil
    have hgiven := h.workers.finished_given i (h.caller.settled i hlt hnot).1
    exact (List.nodup_append.mp hnodup).2.2 i hgiven i hi rfl
  rw [hqueue, List.append_nil] at htaken
  exact htaken

theorem Consistent.known_eq (h : Consistent j m) (hj : j.outcomes = rs.map .done)
    (hpending : m.pending = []) : m.known = .ofResults rs := by
  have hknows := h.caller.knows
  rw [hj] at hknows
  apply hknows.eq_ofResults
  intro i hi
  rw [hpending] at hi
  exact List.not_mem_nil hi

theorem Consistent.eq_run (h : Consistent j m) (hj : j.outcomes = rs.map .done)
    (hcan : m.isCancelled = false) {how : Logged (Except PoolStop (Returned ε β))}
    (hs : m.stage = .ended how) {c : Cancellation} (hc : c.isSet = false) : how = run j c := by
  rw [run_of_done hj hc]
  have hstage := h.stage
  rw [hs] at hstage
  rcases hstage with ⟨stop, rfl, hcause⟩ | ⟨htrue, -⟩ | ⟨rfl, hpending, -, hpos, hnone⟩
  · cases hcause with
    | notPositive hlt => rw [if_pos hlt]
    | refused r hpos hr =>
      rw [if_neg (by omega), Option.mem_def.mp hr]
    | interrupted i _ _ ho =>
      rw [hj, List.getElem?_map] at ho
      obtain ⟨r, -, hr⟩ := Option.map_eq_some_iff.mp ho
      cases hr
  · rw [hcan] at htrue
    exact absurd htrue Bool.false_ne_true
  · rw [if_neg (by omega), hnone, h.known_eq hj hpending]

theorem Job.endsWith_iff (hj : j.outcomes = rs.map .done) {c : Cancellation} (hc : c.isSet = false)
    (how : Logged (Except PoolStop (Returned ε β))) :
    j.EndsWith false false how ↔ how = run j c := by
  constructor
  · rintro ⟨m, hleads, hcan, hs⟩
    exact (hleads.consistent (consistent_first j false)).eq_run hj hcan hs hc
  · rintro rfl
    obtain ⟨m, how, hleads, hcan, hs⟩ :=
      (consistent_first j false).exists_end (isStuck_of_done hj)
    have hhow := (hleads.consistent (consistent_first j false)).eq_run hj hcan hs hc
    exact ⟨m, hleads, hcan, hhow ▸ hs⟩

/-! ## 3. A task on a list of inputs -/

/-- The job of giving every input of a list to a task that always comes back. -/
def Job.ofTask (workers : Int) (task : α → Except ε β) (inputs : List α) : Job ε β where
  workers
  refusal := none
  outcomes := inputs.map fun a => .done (task a)

theorem Job.outcomes_ofTask (workers : Int) (task : α → Except ε β) (inputs : List α) :
    (Job.ofTask workers task inputs).outcomes = (inputs.map task).map .done := by
  rw [List.map_map]
  rfl

/-- The inputs that the task was given up to a moment, in the order in which it was. -/
def Moment.calls (inputs : List α) (m : Moment ε β) : List α :=
  m.given.filterMap (inputs[·]?)

theorem filterMap_getElem?_range (inputs : List α) :
    (List.range inputs.length).filterMap (inputs[·]?) = inputs := by
  induction inputs with
  | nil => rfl
  | cons a rest ih =>
    rw [List.length_cons, List.range_succ_eq_map]
    show a :: ((List.range rest.length).map Nat.succ).filterMap ((a :: rest)[·]?) = a :: rest
    rw [List.filterMap_map]
    exact congrArg (a :: ·) ih

theorem Returned.getElem?_ofResults {rs : List (Except ε β)} {i : Nat} {r : Except ε β}
    (h : rs[i]? = some r) :
    (Returned.ofResults rs).results[i]? = some r.toOption ∧
      (Returned.ofResults rs).errors[i]? = some (error? r) := by
  simp only [Returned.ofResults, List.getElem?_map, h, Option.map_some, and_self]

/-- Whatever the order in which tasks finish and waits bring them, a run that nobody cancels gives
back, at the place of each input, what the task did with it: the two lists of a sequential map. Each
input was given to the task once. Every run can still come to this end. -/
theorem every_run_returns_map (task : α → Except ε β) (inputs : List α) (workers : Int)
    (hworkers : 1 ≤ workers) {m : Moment ε β}
    (hrun : Leads (Job.ofTask workers task inputs) (.first false inputs.length) m)
    (hcancel : m.isCancelled = false) :
    (∀ how, m.stage = .ended how → ∃ returned : Returned ε β,
      how = pure (.ok returned) ∧
      returned.results.length = inputs.length ∧ returned.errors.length = inputs.length ∧
      (∀ (i : Nat) (a : α), inputs[i]? = some a →
        (∃ b, task a = .ok b ∧
          returned.results[i]? = some (some b) ∧ returned.errors[i]? = some none) ∨
        (∃ e, task a = .error e ∧
          returned.errors[i]? = some (some e) ∧ returned.results[i]? = some none)) ∧
      m.given = List.range inputs.length ∧ m.calls inputs = inputs ∧
      returned = .ofResults (inputs.map task) ∧
      ∀ c : Cancellation, c.isSet = false →
        run (Job.ofTask workers task inputs) c = pure (.ok returned)) ∧
    ∃ m' how, Leads (Job.ofTask workers task inputs) m m' ∧ m'.isCancelled = false ∧
      m'.stage = .ended how := by
  have hj := Job.outcomes_ofTask workers task inputs
  have hlength : (Job.ofTask workers task inputs).outcomes.length = inputs.length := by
    rw [hj, List.length_map, List.length_map]
  have hm : Consistent (Job.ofTask workers task inputs) m := by
    apply hrun.consistent
    rw [← hlength]
    exact consistent_first _ false
  have hnone : (Job.ofTask workers task inputs).refusal? = none := rfl
  have hcomputed : ∀ c : Cancellation, c.isSet = false →
      run (Job.ofTask workers task inputs) c = pure (.ok (.ofResults (inputs.map task))) := by
    intro c hc
    rw [run_of_done hj hc, if_neg (by show ¬ workers < 1; omega), hnone]
  refine ⟨?_, ?_⟩
  · intro how hs
    have hhow : how = pure (.ok (.ofResults (inputs.map task))) :=
      (hm.eq_run hj hcancel hs rfl).trans (hcomputed .absent rfl)
    -- Of the three kinds of end, only that with nothing pending gives lists back.
    have hgiven : m.given = List.range inputs.length := by
      have hstage := hm.stage
      rw [hs, hhow] at hstage
      rcases hstage with ⟨stop, heq, -⟩ | ⟨htrue, -⟩ | ⟨-, hpending, hall, -, -⟩
      · cases heq
      · rw [hcancel] at htrue
        exact absurd htrue Bool.false_ne_true
      · rw [← hlength]
        exact hm.given_eq_range hpending hall
    refine ⟨_, hhow, ?_, ?_, ?_, hgiven, ?_, rfl, hcomputed⟩
    · simp only [Returned.ofResults, List.length_map]
    · simp only [Returned.ofResults, List.length_map]
    · intro i a ha
      have hi : (inputs.map task)[i]? = some (task a) := by rw [List.getElem?_map, ha]; rfl
      obtain ⟨hresult, herror⟩ := Returned.getElem?_ofResults hi
      cases htask : task a with
      | ok b =>
        rw [htask] at hresult herror
        exact .inl ⟨b, rfl, hresult, herror⟩
      | error e =>
        rw [htask] at hresult herror
        exact .inr ⟨e, rfl, herror, hresult⟩
    · unfold Moment.calls
      rw [hgiven, filterMap_getElem?_range]
  · obtain ⟨m', how, hleads, hcan, hs⟩ := hm.exists_end (isStuck_of_done hj)
    exact ⟨m', how, hleads, hcan.trans hcancel, hs⟩

/-- The second of two tasks comes back first and fails, after a wait that brings nothing. -/
theorem late_first_run_returns_map :
    ∃ m : Moment String Nat,
      Leads (Job.ofTask 2 (fun n => if n < 5 then .error "small" else .ok (10 * n)) [7, 3])
        (.first false 2) m ∧
      m.isCancelled = false ∧ m.finished = [0, 1] ∧ m.given = [0, 1] ∧
      m.stage = .ended (pure (.ok ⟨[some 70, none], [none, some "small"]⟩)) := by
  let task : Nat → Except String Nat := fun n => if n < 5 then .error "small" else .ok (10 * n)
  have h : Leads (Job.ofTask 2 task [7, 3]) (.first false 2) _ := .refl _
  have h := h.tail (.enter _ rfl (by decide) (by nofun))
  have h := h.tail (.hand _ rfl (by decide) (by nofun))
  have h := h.tail (.give _ 0 [] rfl rfl (by decide))
  have h := h.tail (.hand _ rfl (by decide) (by nofun))
  have h := h.tail (.start _ rfl rfl)
  have h := h.tail (.give _ 1 [] rfl rfl (by decide))
  have h := h.tail (.wait _ rfl (by nofun) rfl)
  have h := h.tail (.wake _ [] rfl .nil (by nofun) (by nofun))
  have h := h.tail (.finish _ 1 (.done (.error "small")) (by decide) (by decide) rfl rfl)
  have h := h.tail (.wait _ rfl (by nofun) rfl)
  have h := h.tail (.wake _ [1] rfl (by decide) (by decide) (by decide))
  have h := h.tail (.finish _ 0 (.done (.ok 70)) (by decide) (by decide) rfl rfl)
  have h := h.tail (.wait _ rfl (by nofun) rfl)
  have h := h.tail (.wake _ [0] rfl (by decide) (by decide) (by decide))
  have h := h.tail (.complete _ rfl rfl)
  obtain ⟨returned, hhow, -, -, -, hgiven, -, hmap, -⟩ :=
    (every_run_returns_map task [7, 3] 2 (by decide) h rfl).1 _ rfl
  refine ⟨_, h, rfl, rfl, hgiven, ?_⟩
  rw [hmap] at hhow
  exact congrArg Stage.ended hhow

end VideoWall.Pool
