import VideoWall.Command.Run
import VideoWall.Proofs.Widget.History
import VideoWall.Proofs.Widget.Listing

/-!
# Turns of a run

What a run does is a matter of how its cycles end. A cycle that completes or is given up is followed by
one text, which shows what the completed cycles so far have published, and by one wait; anything else
ends the run. Main statements: `turnBehind_of_goesOn` and `turns_prefix`.
-/

namespace VideoWall.Command

/-! ## 1. Cycles -/

abbrev Ends := Nat → Except Halt CycleResult

variable {w : Surroundings} {updates : Updates} {p : Plan} {ends : Ends} {now : Stamp} {n m : Nat}
  {s : Widget.State} {h : Halt} {text : String}

/-- Whether a run that is to go on goes on after a cycle: the cycle has completed or was given up. -/
def GoesOn (e : Except Halt CycleResult) : Prop :=
  (∃ r, e = .ok r) ∨ e = .error .cancelled

/-- The result that was published last before a turn, if any was. -/
def lastBefore (ends : Ends) : (turn : Nat) → Option CycleResult
  | 0 => none
  | n + 1 =>
    match ends n with
    | .ok r => some r
    | .error _ => lastBefore ends n

def shownIn (ends : Ends) (turn : Nat) : Widget.State :=
  Widget.shown (lastBefore ends (turn + 1))

/-- Whether the updates of a run publish what its cycles come to, and nothing else. -/
def Publish (updates : Nat → Widget.State → Logged (Except Halt Widget.State)) (ends : Ends) : Prop :=
  ∀ n s, (updates n s).value = (ends n).map s.begun.completed

theorem lastBefore_isSome : (lastBefore ends n).isSome = true ↔ ∃ k < n, ∃ r, ends k = .ok r := by
  induction n with
  | zero => simp [lastBefore]
  | succ n ih =>
    rw [lastBefore]
    cases hend : ends n with
    | ok r => exact iff_of_true rfl ⟨n, Nat.lt_succ_self n, r, hend⟩
    | error h =>
      rw [ih]
      constructor
      · rintro ⟨k, hk, r, hr⟩
        exact ⟨k, by omega, r, hr⟩
      · rintro ⟨k, hk, r, hr⟩
        have hne : k ≠ n := by
          rintro rfl
          rw [hend] at hr
          cases hr
        exact ⟨k, by omega, r, hr⟩

theorem exists_of_lastBefore {r : CycleResult} (hr : lastBefore ends n = some r) :
    ∃ k < n, ends k = .ok r ∧ ∀ j, k < j → j < n → ∀ r', ends j ≠ .ok r' := by
  induction n with
  | zero => cases hr
  | succ n ih =>
    rw [lastBefore] at hr
    cases hend : ends n with
    | ok r' =>
      rw [hend] at hr
      obtain rfl := Option.some.inj hr
      exact ⟨n, Nat.lt_succ_self n, hend, fun j hj hj' => by omega⟩
    | error h =>
      rw [hend] at hr
      obtain ⟨k, hk, hkr, hlater⟩ := ih hr
      refine ⟨k, by omega, hkr, fun j hj hj' r' hr' => ?_⟩
      rcases Nat.lt_succ_iff_lt_or_eq.mp hj' with hlt | rfl
      · exact hlater j hj hlt r' hr'
      · rw [hend] at hr'
        cases hr'

theorem shownIn_succ_of_error (hend : ends (n + 1) = .error h) : shownIn ends (n + 1) = shownIn ends n := by
  rw [shownIn, lastBefore, hend]
  rfl

/-! ## 2. One turn -/

theorem value_writeTurn_ok (hwritten : (written now p s).value = .ok text) :
    (writeTurn now p s).value = if p.options.watch then .next text s else .last text := by
  rw [writeTurn, Logged.value_bind, hwritten]
  dsimp only
  split
  · rfl
  · rfl

theorem value_writeTurn_error (hwritten : (written now p s).value = .error h) :
    (writeTurn now p s).value = .ends h.ending.value := by
  rw [writeTurn, Logged.value_bind, hwritten]
  rfl

theorem value_afterUpdate_error (hne : h ≠ .cancelled) :
    (afterUpdate now p s (.error h)).value = .ends h.ending.value := by
  cases h <;> first | rfl | exact absurd rfl hne

theorem value_afterUpdate_cancelled : (afterUpdate now p s (.error .cancelled)).value =
    if p.options.watch then (writeTurn now p s).value else .ends (.exits 1) := by
  rw [afterUpdate, Logged.value_bind]
  split
  · rfl
  · rfl

/-- What the text of a turn would be, or the halt that keeps it from being written. -/
def textIn (w : Surroundings) (p : Plan) (ends : Ends) (turn : Nat) : Except Halt String :=
  (written (w.now turn) p (shownIn ends turn)).value

abbrev turnBehind (w : Surroundings) (updates : Updates) (p : Plan) (ends : Ends) (n : Nat) : Turn :=
  (turn (w.now n) p (Widget.shown (lastBefore ends n)) (updates p n (Widget.shown (lastBefore ends n)))).value

theorem turnBehind_eq (hpublish : Publish (updates p) ends) : turnBehind w updates p ends n =
    (afterUpdate (w.now n) p (Widget.shown (lastBefore ends n))
      ((ends n).map (Widget.shown (lastBefore ends n)).begun.completed)).value := by
  rw [turnBehind, turn, Logged.value_bind, hpublish n]

theorem turnBehind_of_ok {r : CycleResult} (hpublish : Publish (updates p) ends) (hend : ends n = .ok r) :
    turnBehind w updates p ends n = (writeTurn (w.now n) p (shownIn ends n)).value := by
  rw [turnBehind_eq hpublish, shownIn, lastBefore, hend]
  show (writeTurn (w.now n) p _).value = _
  rw [Widget.completed_begun_shown]

theorem turnBehind_of_cancelled (hpublish : Publish (updates p) ends) (hend : ends n = .error .cancelled) :
    turnBehind w updates p ends n =
      if p.options.watch then (writeTurn (w.now n) p (shownIn ends n)).value else .ends (.exits 1) := by
  rw [turnBehind_eq hpublish, shownIn, lastBefore, hend]
  exact value_afterUpdate_cancelled

theorem turnBehind_of_halt (hpublish : Publish (updates p) ends) (hend : ends n = .error h)
    (hne : h ≠ .cancelled) : turnBehind w updates p ends n = .ends h.ending.value := by
  rw [turnBehind_eq hpublish, hend]
  exact value_afterUpdate_error hne

/-- A run that is to go on writes after a cycle that was given up as after one that has completed. -/
theorem turnBehind_of_goesOn (hpublish : Publish (updates p) ends) (hwatch : p.options.watch = true)
    (hgoes : GoesOn (ends n)) :
    turnBehind w updates p ends n = (writeTurn (w.now n) p (shownIn ends n)).value := by
  rcases hgoes with ⟨r, hr⟩ | hcancelled
  · exact turnBehind_of_ok hpublish hr
  · rw [turnBehind_of_cancelled hpublish hcancelled, if_pos hwatch]

/-! ## 3. Turn after turn -/

variable {k : Nat} {next : Widget.State} {texts : Nat → String}

theorem turns_of_ends {e : Ending} (hturn : (turn (w.now n) p s (updates p n s)).value = .ends e) :
    (turns w updates p k n s).acts = [.updates] ∧ (turns w updates p k n s).ending = e := by
  rw [turns]
  dsimp only
  rw [hturn]
  exact ⟨rfl, rfl⟩

theorem turns_of_last (hturn : (turn (w.now n) p s (updates p n s)).value = .last text) :
    (turns w updates p k n s).acts = [.updates, .writes text] ∧
      (turns w updates p k n s).ending = .exits 0 := by
  rw [turns]
  dsimp only
  rw [hturn]
  exact ⟨rfl, rfl⟩

theorem turns_of_next_zero (hturn : (turn (w.now n) p s (updates p n s)).value = .next text next) :
    (turns w updates p 0 n s).acts = [.updates, .writes text, .waits next.refresh] ∧
      (turns w updates p 0 n s).ending = .exits 0 := by
  rw [turns]
  dsimp only
  rw [hturn]
  exact ⟨rfl, rfl⟩

theorem turns_of_next_succ (hturn : (turn (w.now n) p s (updates p n s)).value = .next text next) :
    (turns w updates p (k + 1) n s).acts =
        [.updates, .writes text, .waits next.refresh] ++ (turns w updates p k (n + 1) next).acts ∧
      (turns w updates p (k + 1) n s).ending = (turns w updates p k (n + 1) next).ending := by
  rw [turns]
  dsimp only
  rw [hturn]
  exact ⟨rfl, rfl⟩

def turnActs (ends : Ends) (texts : Nat → String) (turn : Nat) : List Act :=
  [.updates, .writes (texts turn), .waits (shownIn ends turn).refresh]

/-- Whether a run goes on after a turn, having written a text. -/
def Passes (w : Surroundings) (p : Plan) (ends : Ends) (texts : Nat → String) (turn : Nat) : Prop :=
  GoesOn (ends turn) ∧ textIn w p ends turn = .ok (texts turn)

theorem turnBehind_of_passes (hpublish : Publish (updates p) ends) (hwatch : p.options.watch = true)
    (hpasses : Passes w p ends texts n) :
    turnBehind w updates p ends n = .next (texts n) (shownIn ends n) := by
  rw [turnBehind_of_goesOn hpublish hwatch hpasses.1, value_writeTurn_ok hpasses.2, if_pos hwatch]

/-- The turns that a run passes are what it does first; the rest is a run from the turn behind them. -/
theorem turns_prefix (hpublish : Publish (updates p) ends) (hwatch : p.options.watch = true)
    (hpasses : ∀ n < m, Passes w p ends texts n) (hm : m ≤ k) :
    (turns w updates p k 0 .initial).acts = (List.range m).flatMap (turnActs ends texts) ++
        (turns w updates p (k - m) m (Widget.shown (lastBefore ends m))).acts ∧
      (turns w updates p k 0 .initial).ending =
        (turns w updates p (k - m) m (Widget.shown (lastBefore ends m))).ending := by
  -- The wall that the next turn starts from is the one that the passed turns have left.
  induction m with
  | zero => exact ⟨rfl, rfl⟩
  | succ m ih =>
    obtain ⟨hacts, hending⟩ := ih (fun n hn => hpasses n (by omega)) (by omega)
    have hturn := turnBehind_of_passes hpublish hwatch (hpasses m (Nat.lt_succ_self m))
    have hwaits : k - m = k - (m + 1) + 1 := by omega
    rw [hwaits] at hacts hending
    obtain ⟨hacts', hending'⟩ := turns_of_next_succ (k := k - (m + 1)) hturn
    rw [hacts, hending, hacts', hending', List.range_succ, List.flatMap_append, List.append_assoc]
    exact ⟨rfl, rfl⟩

end VideoWall.Command
