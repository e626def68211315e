import VideoWall.Widget.Updates

/-!
# One update at a time

However the steps of its callers interleave, a wall has one update at a time: callers that were turned
away aside, its history is one whole update after the other, with perhaps one in progress at the end
(`Leads.inOrder`). Main statement: `every_history_is_serial`.
-/

namespace VideoWall.Widget

variable {s : Settings} {es : List Event} {w w' : Shared} {e : Event} {base found : State} {c d : Nat}
  {done : List Event} {us : List (Update s)}

/-! ## 1. Histories in order -/

/-- Whether nobody is in an update of a wall. -/
structure Shared.IsIdle (w : Shared) : Prop where
  unlocked : w.isLocked = false
  outside : ∀ c, w.phase c = .outside

/-- What a caller has done since it took the lock, the last event first, given the state that it
found; with the phase that it is in and the state of the wall. -/
inductive Underway (s : Settings) (found : State) (c : Nat) : List Event → Phase → State → Prop where
  | entered : Underway s found c [.enter c] .entered found
  | running : Underway s found c [.read c, .enter c] (.running found) found
  | published (r : CycleResult) : Cycle.CanComeTo s.withDefaults r →
      Underway s found c [.publish c r, .read c, .enter c] .leaving (found.begun.completed r)
  | failed (hasRead : Bool) :
      Underway s found c (.fail c :: Update.opening c hasRead) .leaving found

/-- Whether a caller has the lock, nobody else is in an update, and the history is that of some whole
updates and of what the caller has done, callers that were turned away aside. -/
structure IsBusy (base : State) (es : List Event) (w : Shared) (us : List (Update s)) (c : Nat)
    (done : List Event) : Prop where
  locked : w.isLocked = true
  others : ∀ d, d ≠ c → w.phase d = .outside
  history : admitted es = done ++ serial us
  underway : Underway s (stateAfter base us) c done (w.phase c) w.state

/-- Whether a history that began with an idle wall is one whole update after the other, callers that
were turned away aside, with perhaps one update in progress at its end. -/
inductive InOrder (s : Settings) (base : State) (es : List Event) (w : Shared) : Prop where
  | idle (us : List (Update s)) : w.IsIdle → admitted es = serial us →
      w.state = stateAfter base us → InOrder s base es w
  | busy (us : List (Update s)) (c : Nat) (done : List Event) : IsBusy base es w us c done →
      InOrder s base es w

theorem isIdle_first : Shared.first.IsIdle where
  unlocked := rfl
  outside _ := rfl

theorem phase_move_of_ne (h : d ≠ c) (w : Shared) (p : Phase) : (w.move c p).phase d = w.phase d :=
  if_neg h

theorem admitted_cons (h : e.isRejection = false) (es : List Event) :
    admitted (e :: es) = e :: admitted es := by
  unfold admitted
  exact List.filter_cons_of_pos (by rw [h]; rfl)

theorem admitted_reject (c : Nat) (es : List Event) : admitted (.reject c :: es) = admitted es := by
  unfold admitted
  exact List.filter_cons_of_neg Bool.false_ne_true

/-! ## 2. Whole updates -/

theorem exists_course {r : CycleResult} (h : Cycle.CanComeTo s.withDefaults r) :
    ∃ course : Course s, course.ended.value = .ok r := by
  obtain ⟨env, ⟨before, after, ended, hends, hvalue⟩ | ⟨cancellation, hvalue⟩⟩ := h
  · exact ⟨⟨env, before, after, ended, .inl hends⟩, hvalue⟩
  · exact ⟨⟨env, cancellation.isSet, false, _, .inr ⟨_, rfl, rfl⟩⟩, hvalue⟩

theorem result?_ran {r : CycleResult} {course : Course s} (h : course.ended.value = .ok r) (c : Nat) :
    (Update.ran c course).result? = some r := by
  rw [Update.result?, h]
  rfl

theorem Underway.of_entered {state : State} (h : Underway s found c done .entered state) :
    done = [.enter c] ∧ state = found := by
  cases h
  exact ⟨rfl, rfl⟩

theorem Underway.of_running {seen state : State} (h : Underway s found c done (.running seen) state) :
    done = [.read c, .enter c] ∧ seen = found ∧ state = found := by
  cases h
  exact ⟨rfl, rfl, rfl⟩

theorem Underway.exists_update {state : State} (h : Underway s found c done .leaving state) :
    ∃ u : Update s, u.events = .leave c :: done ∧ u.applied found = state := by
  cases h with
  | published r hcomes =>
    obtain ⟨course, hvalue⟩ := exists_course hcomes
    have hresult := result?_ran hvalue c
    refine ⟨.ran c course, ?_, ?_⟩
    · rw [Update.events, hresult]
      rfl
    · rw [Update.applied, hresult]
  | failed hasRead => exact ⟨.broke c hasRead, rfl, rfl⟩

/-! ## 3. Steps keep the order -/

theorem InOrder.isBusy (h : InOrder s base es w) (hc : w.phase c ≠ .outside) :
    ∃ (us : List (Update s)) (done : List Event), IsBusy base es w us c done := by
  cases h with
  | idle us hidle _ _ => exact absurd (hidle.outside c) hc
  | busy us d done hbusy =>
    by_cases hcd : c = d
    · subst hcd
      exact ⟨us, done, hbusy⟩
    · exact absurd (hbusy.others c hcd) hc

theorem IsBusy.inOrder_cons (h : IsBusy base es w us c done) {p : Phase}
    (he : e.isRejection = false) (hlocked : w'.isLocked = true)
    (hphase : w'.phase = (w.move c p).phase)
    (hdone : Underway s (stateAfter base us) c (e :: done) p w'.state) :
    InOrder s base (e :: es) w' := by
  refine .busy us c (e :: done) ⟨hlocked, ?_, ?_, ?_⟩
  · intro d hd
    rw [hphase, phase_move_of_ne hd]
    exact h.others d hd
  · rw [admitted_cons he, h.history]
    rfl
  · rw [hphase, Shared.phase_move_self]
    exact hdone

theorem Step.inOrder (hstep : Step s w e w') (h : InOrder s base es w) :
    InOrder s base (e :: es) w' := by
  cases hstep with
  | enter c houtside hfree =>
    -- The lock is free, so nobody is in an update.
    cases h with
    | busy us d done hbusy => exact absurd hbusy.locked (by rw [hfree]; exact Bool.false_ne_true)
    | idle us hidle hes hstate =>
      refine .busy us c [.enter c] ⟨rfl, ?_, ?_, ?_⟩
      · intro d hd
        exact (phase_move_of_ne hd w .entered).trans (hidle.outside d)
      · rw [admitted_cons rfl, hes]
        rfl
      · show Underway s _ c _ ((w.move c .entered).phase c) w.state
        rw [Shared.phase_move_self, hstate]
        exact .entered
  | reject c _ _ =>
    cases h with
    | idle us hidle hes hstate => exact .idle us hidle (by rw [admitted_reject, hes]) hstate
    | busy us d done hbusy =>
      exact .busy us d done { hbusy with history := by rw [admitted_reject, hbusy.history] }
  -- In the other steps the caller is in an update, so it is the one that has the lock.
  | read c hentered =>
    obtain ⟨us, done, hbusy⟩ := h.isBusy (c := c) (by rw [hentered]; nofun)
    obtain ⟨rfl, hstate⟩ := Underway.of_entered (hentered ▸ hbusy.underway)
    refine hbusy.inOrder_cons rfl hbusy.locked rfl ?_
    rw [Shared.state_move, hstate]
    exact .running
  | publish c seen r hrunning hcomes =>
    -- What the caller has read is what it found, so its result is put on the present state.
    obtain ⟨us, done, hbusy⟩ := h.isBusy (c := c) (by rw [hrunning]; nofun)
    obtain ⟨rfl, rfl, -⟩ := Underway.of_running (hrunning ▸ hbusy.underway)
    exact hbusy.inOrder_cons rfl hbusy.locked rfl (.published r hcomes)
  | fail c hphase =>
    rcases hphase with hentered | ⟨seen, hrunning⟩
    · obtain ⟨us, done, hbusy⟩ := h.isBusy (c := c) (by rw [hentered]; nofun)
      obtain ⟨rfl, hstate⟩ := Underway.of_entered (hentered ▸ hbusy.underway)
      refine hbusy.inOrder_cons rfl hbusy.locked rfl ?_
      rw [Shared.state_move, hstate]
      exact .failed false
    · obtain ⟨us, done, hbusy⟩ := h.isBusy (c := c) (by rw [hrunning]; nofun)
      obtain ⟨rfl, -, hstate⟩ := Underway.of_running (hrunning ▸ hbusy.underway)
      refine hbusy.inOrder_cons rfl hbusy.locked rfl ?_
      rw [Shared.state_move, hstate]
      exact .failed true
  | leave c hleaving =>
    obtain ⟨us, done, hbusy⟩ := h.isBusy (c := c) (by rw [hleaving]; nofun)
    have hdone := hbusy.underway
    rw [hleaving] at hdone
    -- With this event the update is whole, and it comes in front of the ones before.
    obtain ⟨u, hevents, hstate⟩ := hdone.exists_update
    refine .idle (u :: us) ⟨rfl, ?_⟩ ?_ hstate.symm
    · intro d
      by_cases hd : d = c
      · rw [hd]
        exact Shared.phase_move_self w c .outside
      · exact (phase_move_of_ne hd w .outside).trans (hbusy.others d hd)
    · rw [admitted_cons rfl, hbusy.history, ← List.cons_append, ← hevents]
      rfl

theorem Leads.inOrder {w₀ : Shared} (h : Leads s w₀ es w) (h₀ : w₀.IsIdle) :
    InOrder s w₀.state es w := by
  induction h with
  | refl => exact .idle [] h₀ rfl rfl
  | tail _ hstep ih => exact hstep.inOrder ih

/-! ## 4. The lock -/

theorem InOrder.eq_of_inside (h : InOrder s base es w) (hc : w.phase c ≠ .outside)
    (hd : w.phase d ≠ .outside) : d = c := by
  obtain ⟨us, done, hbusy⟩ := h.isBusy hc
  rcases Decidable.em (d = c) with heq | hne
  · exact heq
  · exact absurd (hbusy.others d hne) hd

theorem InOrder.isLocked_iff (h : InOrder s base es w) :
    w.isLocked = true ↔ ∃ c, w.phase c ≠ .outside := by
  cases h with
  | idle us hidle _ _ =>
    constructor
    · intro hlocked
      exact absurd hlocked (by rw [hidle.unlocked]; exact Bool.false_ne_true)
    · rintro ⟨c, hc⟩
      exact absurd (hidle.outside c) hc
  | busy us c done hbusy =>
    -- Whatever the caller has done, it is in its update.
    have hc : w.phase c ≠ .outside := by
      intro hphase
      have hdone := hbusy.underway
      rw [hphase] at hdone
      cases hdone
    exact ⟨fun _ => ⟨c, hc⟩, fun _ => hbusy.locked⟩

theorem InOrder.unlocked_iff (h : InOrder s base es w) :
    w.isLocked = false ↔ ∀ d, w.phase d = .outside := by
  rw [← Bool.not_eq_true, h.isLocked_iff]
  constructor
  · intro hnone d
    exact Classical.byContradiction fun hd => hnone ⟨d, hd⟩
  · rintro hall ⟨c, hc⟩
    exact hc (hall c)

theorem InOrder.isIdle_of_leave (h : InOrder s base es w) (hstep : Step s w (.leave c) w') :
    w'.IsIdle := by
  have hunlocked : w'.isLocked = false := by
    cases hstep
    rfl
  exact ⟨hunlocked, (hstep.inOrder h).unlocked_iff.mp hunlocked⟩

theorem InOrder.exists_leave (h : InOrder s base es w) (hleaving : w.phase c = .leaving) :
    ∃ w', Step s w (.leave c) w' ∧ w'.IsIdle ∧ w'.state = w.state := by
  have hstep : Step s w (.leave c) _ := .leave w c hleaving
  exact ⟨_, hstep, h.isIdle_of_leave hstep, rfl⟩

/-- From every moment on the wall can become idle again, and nobody publishes on the way. -/
theorem InOrder.exists_leads_idle (h : InOrder s base es w) :
    ∃ es' w', Leads s w es' w' ∧ w'.IsIdle ∧ w'.state = w.state := by
  by_cases hlocked : w.isLocked = true
  · obtain ⟨c, hc⟩ := h.isLocked_iff.mp hlocked
    by_cases hleaving : w.phase c = .leaving
    · obtain ⟨w', hstep, hidle, hstate⟩ := h.exists_leave hleaving
      exact ⟨_, w', (Leads.refl w).tail hstep, hidle, hstate⟩
    · -- The caller can fail where it is, and gives the lock back then.
      have hphase : w.phase c = .entered ∨ ∃ seen, w.phase c = .running seen := by
        cases hp : w.phase c with
        | outside => exact absurd hp hc
        | entered => exact .inl rfl
        | running seen => exact .inr ⟨seen, rfl⟩
        | leaving => exact absurd hp hleaving
      have hfail : Step s w (.fail c) _ := .fail w c hphase
      obtain ⟨w', hstep, hidle, hstate⟩ :=
        (hfail.inOrder h).exists_leave (Shared.phase_move_self w c .leaving)
      exact ⟨_, w', ((Leads.refl w).tail hfail).tail hstep, hidle, hstate⟩
  · have hunlocked : w.isLocked = false := Bool.eq_false_iff.mpr hlocked
    exact ⟨[], w, .refl w, ⟨hunlocked, h.unlocked_iff.mp hunlocked⟩, rfl⟩

theorem canComeTo_of_course {r : CycleResult} (course : Course s)
    (h : course.ended.value = .ok r) : Cycle.CanComeTo s.withDefaults r := by
  rcases course.possible with hends | ⟨c, -, hended⟩
  · exact ⟨course.env, .inl ⟨course.before, course.after, course.ended, hends, h⟩⟩
  · exact ⟨course.env, .inr ⟨c, by rw [← hended, h]⟩⟩

theorem Shared.IsIdle.exists_leads_opening (hidle : w.IsIdle) (c : Nat) (hasRead : Bool) :
    ∃ w', Leads s w (Update.opening c hasRead) w' ∧ w'.state = w.state ∧
      w'.phase c = if hasRead then .running w.state else .entered := by
  have henter : Leads s w [.enter c] _ :=
    (Leads.refl w).tail (.enter w c (hidle.outside c) hidle.unlocked)
  cases hasRead with
  | false => exact ⟨_, henter, rfl, Shared.phase_move_self w c .entered⟩
  | true =>
    have hread := henter.tail (.read _ c (Shared.phase_move_self w c .entered))
    exact ⟨_, hread, rfl, Shared.phase_move_self _ c _⟩

theorem canComeTo_of_result? {u : Update s} {r : CycleResult} (h : u.result? = some r) :
    Cycle.CanComeTo s.withDefaults r := by
  cases u with
  | broke c hasRead => cases h
  | ran c course =>
    have hvalue : course.ended.value = .ok r := by
      rw [Update.result?] at h
      cases hended : course.ended.value with
      | ok r' =>
        rw [hended] at h
        exact congrArg _ (Option.some.inj h)
      | error a =>
        rw [hended] at h
        cases h
    exact canComeTo_of_course course hvalue

theorem Shared.IsIdle.exists_leads (hidle : w.IsIdle) (u : Update s) :
    ∃ w', Leads s w u.events w' ∧ w'.IsIdle ∧ w'.state = u.applied w.state := by
  unfold Update.events Update.applied
  cases hresult : u.result? with
  | some r =>
    obtain ⟨w₁, hleads, -, hphase⟩ := hidle.exists_leads_opening (s := s) u.caller true
    have h := hleads.tail
      (.publish w₁ u.caller w.state r hphase (canComeTo_of_result? hresult))
    obtain ⟨w', hstep, hidle', hstate'⟩ :=
      (h.inOrder hidle).exists_leave (Shared.phase_move_self w₁ u.caller .leaving)
    exact ⟨w', h.tail hstep, hidle', hstate'⟩
  | none =>
    obtain ⟨w₁, hleads, hstate, hphase⟩ := hidle.exists_leads_opening (s := s) u.caller u.hasRead
    have hinside : w₁.phase u.caller = .entered ∨ ∃ seen, w₁.phase u.caller = .running seen := by
      cases hread : u.hasRead with
      | false => exact .inl (by rw [hphase, hread]; rfl)
      | true => exact .inr ⟨w.state, by rw [hphase, hread]; rfl⟩
    -- A failure leaves the state that the opening has left.
    have h := hleads.tail (.fail w₁ u.caller hinside)
    obtain ⟨w', hstep, hidle', hstate'⟩ :=
      (h.inOrder hidle).exists_leave (Shared.phase_move_self w₁ u.caller .leaving)
    exact ⟨w', h.tail hstep, hidle', hstate'.trans hstate⟩

/-! ## 5. Entering and publishing -/

theorem InOrder.exists_reject_iff (h : InOrder s base es w) (hc : w.phase c = .outside) :
    (∃ w', Step s w (.reject c) w') ↔ ∃ d, d ≠ c ∧ w.phase d ≠ .outside := by
  constructor
  · rintro ⟨w', hstep⟩
    cases hstep with
    | reject _ _ hlocked =>
      obtain ⟨d, hd⟩ := h.isLocked_iff.mp hlocked
      exact ⟨d, fun hdc => hd (hdc ▸ hc), hd⟩
  · rintro ⟨d, -, hd⟩
    exact ⟨w, .reject w c hc (h.isLocked_iff.mpr ⟨d, hd⟩)⟩

theorem InOrder.exists_enter_iff (h : InOrder s base es w) (hc : w.phase c = .outside) :
    (∃ w', Step s w (.enter c) w') ↔ ∀ d, w.phase d = .outside := by
  rw [← h.unlocked_iff]
  constructor
  · rintro ⟨w', hstep⟩
    cases hstep with
    | enter _ _ hfree => exact hfree
  · intro hfree
    exact ⟨_, .enter w c hc hfree⟩

/-- What is published starts from what the wall shows: since the caller read it, callers were turned
away at most. -/
theorem InOrder.of_publish (h : InOrder s base es w) {r : CycleResult}
    (hstep : Step s w (.publish c r) w') :
    w.isLocked = true ∧ w.phase c = .running w.state ∧ w'.state = w.state.begun.completed r ∧
      ∃ us : List (Update s), admitted es = .read c :: .enter c :: serial us ∧
        w.state = stateAfter base us := by
  cases hstep with
  | publish _ seen _ hrunning _ =>
    obtain ⟨us, done, hbusy⟩ := h.isBusy (c := c) (by rw [hrunning]; nofun)
    obtain ⟨rfl, rfl, hstate⟩ := Underway.of_running (hrunning ▸ hbusy.underway)
    rw [hstate]
    exact ⟨hbusy.locked, hrunning, rfl, us, hbusy.history, rfl⟩

theorem Step.state_of_quiet (hstep : Step s w e w') (he : ∀ c r, e ≠ .publish c r) :
    w'.state = w.state := by
  cases hstep with
  | publish c seen r _ _ => exact absurd rfl (he c r)
  | _ => rfl

/-! ## 6. One update at a time -/

/-- However the steps of any number of callers interleave, requests of a running cycle that ask for an
update among them, one caller at most is in an update, and the lock is taken exactly as long as one is.
A caller is turned away if and only if another one is in an update, and the wall is as before then.
However an update ends, the lock is free when its caller leaves; every update can end, and one that
finds the wall idle leaves it idle, with the state that its result makes or, without a result, with the
same state. Only a caller that has the lock writes the state: it writes what its own result makes of
the state that it has read, which is the present one. So the history is one whole update after the
other, callers that were turned away aside, each with one publication or with a failure. -/
theorem every_history_is_serial (s : Settings) {es : List Event} {w : Shared}
    (h : Leads s .first es w) :
    (∀ c d, w.phase c ≠ .outside → w.phase d ≠ .outside → c = d) ∧
    (w.isLocked = true ↔ ∃ c, w.phase c ≠ .outside) ∧
    (∀ c, w.phase c = .outside →
      ((∃ w', Step s w (.reject c) w') ↔ ∃ d, d ≠ c ∧ w.phase d ≠ .outside) ∧
      ((∃ w', Step s w (.enter c) w') ↔ ∀ d, w.phase d = .outside)) ∧
    (∀ c w', Step s w (.reject c) w' → w' = w) ∧
    (∀ c w', Step s w (.leave c) w' → w'.isLocked = false ∧ ∀ d, w'.phase d = .outside) ∧
    (∃ es' w', Leads s w es' w' ∧ w'.isLocked = false ∧ w'.state = w.state) ∧
    ((∀ d, w.phase d = .outside) → ∀ u : Update s, ∃ w', Leads s w u.events w' ∧
      w'.isLocked = false ∧ w'.state = u.applied w.state) ∧
    (∀ c r w', Step s w (.publish c r) w' →
      w.isLocked = true ∧ w.phase c = .running w.state ∧ w'.state = w.state.begun.completed r ∧
        ∃ us : List (Update s), admitted es = .read c :: .enter c :: serial us ∧
          w.state = stateAfter .initial us) ∧
    (∀ e w', Step s w e w' → (∀ c r, e ≠ .publish c r) → w'.state = w.state) ∧
    InOrder s .initial es w := by
  -- The order of the history is the invariant from which the other parts follow.
  have horder : InOrder s .initial es w := h.inOrder isIdle_first
  refine ⟨?_, horder.isLocked_iff, ?_, ?_, ?_, ?_, ?_, ?_, ?_, horder⟩
  · intro c d hc hd
    exact horder.eq_of_inside hd hc
  · intro c hc
    exact ⟨horder.exists_reject_iff hc, horder.exists_enter_iff hc⟩
  · intro c w' hstep
    cases hstep
    rfl
  · intro c w' hstep
    have hidle := horder.isIdle_of_leave hstep
    exact ⟨hidle.unlocked, hidle.outside⟩
  · obtain ⟨es', w', hleads, hidle, hstate⟩ := horder.exists_leads_idle
    exact ⟨es', w', hleads, hidle.unlocked, hstate⟩
  · intro houtside u
    obtain ⟨w', hleads, hidle, hstate⟩ :=
      Shared.IsIdle.exists_leads ⟨horder.unlocked_iff.mpr houtside, houtside⟩ u
    exact ⟨w', hleads, hidle.unlocked, hstate⟩
  · intro c r w' hstep
    exact horder.of_publish hstep
  · intro e w' hstep he
    exact hstep.state_of_quiet he

/-- The second caller comes while the first one runs its cycle. -/
theorem history_with_rejection_is_serial :
    ∃ w, Leads .unset .first [.reject 1, .read 0, .enter 0] w ∧ w.isLocked = true ∧
      (¬ ∃ w', Step .unset w (.enter 1) w') ∧
      ∀ r w', Step .unset w (.publish 0 r) w' → w'.state = State.initial.begun.completed r := by
  have h : Leads .unset .first [] _ := .refl _
  have h := h.tail (.enter _ 0 rfl rfl)
  have h := h.tail (.read _ 0 rfl)
  have h := h.tail (.reject _ 1 rfl rfl)
  obtain ⟨-, -, hentry, -, -, -, -, hpublish, -⟩ := every_history_is_serial .unset h
  refine ⟨_, h, rfl, ?_, ?_⟩
  · intro hentered
    cases (hentry 1 rfl).2.mp hentered 0
  · intro r w' hstep
    exact (hpublish 0 r w' hstep).2.2.1

end VideoWall.Widget
