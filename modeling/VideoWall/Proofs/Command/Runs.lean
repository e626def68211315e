import VideoWall.Proofs.Command.Turns

/-!
# Whole runs

What a run writes, how often it waits and how it ends, for every way in which its cycles can end. Main
statement: `every_run_follows_its_cycles`.
-/

namespace VideoWall.Command

variable {w : Surroundings} {o : Options} {updates : Updates} {p : Plan} {ends : Ends} {n m waits : Nat}
  {s : Settings} {level : LogLevel} {log : Log} {h : Halt} {text : String}

/-! ## 1. What is written -/

theorem eq_unknown_of_written {now : Stamp} {state : Widget.State}
    (hwritten : (written now p state).value = .error h) : h = .unknown := by
  unfold written at hwritten
  cases hformat : p.options.format with
  | json =>
    rw [hformat] at hwritten
    cases hjson : state.json with
    | none =>
      simp only [hjson] at hwritten
      exact (Except.error.inj hwritten).symm
    | some text =>
      simp only [hjson] at hwritten
      cases hwritten
  | html =>
    rw [hformat] at hwritten
    simp only [Logged.value_bind] at hwritten
    split at hwritten
    · cases hwritten
    · exact (Except.error.inj hwritten).symm

theorem exists_written {now : Stamp} {state : Widget.State} (hnow : now.isZoned = true)
    (hstate : state.IsDated) : ∃ text, (written now p state).value = .ok text := by
  unfold written
  cases p.options.format with
  | json =>
    obtain ⟨text, hjson, -⟩ := Widget.State.listed?_json hstate
    simp only [hjson]
    exact ⟨_, rfl⟩
  | html =>
    obtain ⟨page, hpage⟩ : ∃ page, (state.html now (.ofSettings p.settings)).value = .ok page :=
      Widget.State.exists_html hnow hstate
    simp only [Logged.value_bind, hpage]
    exact ⟨_, rfl⟩

theorem isDated_shownIn (hdated : ∀ k ≤ n, ∀ r, ends k = .ok r → ∀ i ∈ r.items, i.kind = .zoned) :
    (shownIn ends n).IsDated := by
  unfold shownIn
  cases hlast : lastBefore ends (n + 1) with
  | none =>
    intro i hi
    cases hi
  | some r =>
    obtain ⟨k, hk, hr, -⟩ := exists_of_lastBefore hlast
    exact hdated k (by omega) r hr

/-! ## 2. What is published -/

/-- Whether a state is what the completed cycles up to a turn have published: the initial state, a minute
from the next refresh, if there are none, and else what the last of them came to, half an hour from the
next refresh. -/
def IsPublished (ends : Ends) (turn : Nat) (state : Widget.State) : Prop :=
  (∀ k ≤ turn, ∀ r, ends k ≠ .ok r) ∧ state = .initial ∧ state.refresh = 60 * 1000000 ∨
    ∃ k ≤ turn, ∃ r, ends k = .ok r ∧ (∀ j, k < j → j ≤ turn → ∀ r', ends j ≠ .ok r') ∧
      state.contentAvailable = true ∧ state.items = r.items ∧ state.lastResult = some r ∧
      state.refresh = 30 * 60 * 1000000

theorem isPublished_shownIn (ends : Ends) (n : Nat) : IsPublished ends n (shownIn ends n) := by
  unfold shownIn
  cases hlast : lastBefore ends (n + 1) with
  | none =>
    refine .inl ⟨fun k hk r hr => ?_, rfl, rfl⟩
    have hsome := lastBefore_isSome.mpr ⟨k, Nat.lt_succ_of_le hk, r, hr⟩
    rw [hlast] at hsome
    cases hsome
  | some r =>
    obtain ⟨k, hk, hr, hlater⟩ := exists_of_lastBefore hlast
    exact .inr ⟨k, by omega, r, hr, fun j hj hj' => hlater j hj (by omega), rfl, rfl, rfl, rfl⟩

/-! ## 3. Runs of one turn and of many -/

def exitCode? : Halt → Option Nat
  | .badValue _ => some 2
  | .interrupted => some 0
  | .endless => none
  | .missingFile _ | .cancelled | .known _ | .unknown => some 1

/-- Whether a run has ended with a halt, after what it did before the cycle that brought the halt. -/
structure Outcome.HaltedBy (out : Outcome) (before : List Act) (h : Halt) : Prop where
  acts : out.acts = before ++ [.updates]
  ending : out.ending = h.ending.value
  code : out.ending.code? = exitCode? h

/-- Whether an outcome is that of a run that is not to go on: it is a matter of one cycle. -/
structure IsOnce (w : Surroundings) (p : Plan) (ends : Ends) (out : Outcome) : Prop where
  completed : ∀ r text, ends 0 = .ok r → textIn w p ends 0 = .ok text →
    out.acts = [.updates, .writes text] ∧ out.ending = .exits 0
  unwritten : ∀ r h, ends 0 = .ok r → textIn w p ends 0 = .error h → out.HaltedBy [] .unknown
  cancelled : ends 0 = .error .cancelled → out.acts = [.updates] ∧ out.ending = .exits 1
  halted : ∀ h, ends 0 = .error h → h ≠ .cancelled → out.HaltedBy [] h

/-- Whether an outcome is that of a run that goes on until it is interrupted in the wait behind `waits`
complete ones, or until its first halt. -/
structure IsWatch (w : Surroundings) (p : Plan) (ends : Ends) (waits : Nat) (out : Outcome) : Prop where
  interrupted : ∀ texts, (∀ n ≤ waits, Passes w p ends texts n) →
    out.acts = (List.range (waits + 1)).flatMap (turnActs ends texts) ∧ out.ending = .exits 0
  halted : ∀ texts, ∀ m ≤ waits, (∀ n < m, Passes w p ends texts n) → ∀ h, ends m = .error h →
    h ≠ .cancelled → out.HaltedBy ((List.range m).flatMap (turnActs ends texts)) h
  unwritten : ∀ texts, ∀ m ≤ waits, (∀ n < m, Passes w p ends texts n) → ∀ h, GoesOn (ends m) →
    textIn w p ends m = .error h → out.HaltedBy ((List.range m).flatMap (turnActs ends texts)) .unknown

theorem code?_ending (h : Halt) : h.ending.value.code? = exitCode? h := by
  cases h <;> rfl

theorem plan_start (hsettings : (Settings.load w.holds w.directory o.config).value = .ok s)
    (hlevel : LogLevel.ofText? (levelText o s) = some level)
    (hlog : (Log.start w.holds w.directory level (logPath o s)).value = .ok log) :
    (start w o).plan = .ok ⟨o, s.withDefaults, log⟩ := by
  simp only [start, hsettings, startLog, hlevel, hlog]

theorem runWith_of_plan (hplan : (start w o).plan = .ok p) :
    (runWith w updates waits o).acts = (turns w updates p waits 0 .initial).acts ∧
      (runWith w updates waits o).ending = (turns w updates p waits 0 .initial).ending := by
  rw [runWith]
  dsimp only
  rw [hplan]
  exact ⟨rfl, rfl⟩

theorem isOnce_runWith (hplan : (start w o).plan = .ok p) (hpublish : Publish (updates p) ends)
    (hwatch : p.options.watch = false) : IsOnce w p ends (runWith w updates waits o) := by
  obtain ⟨hacts, hending⟩ : (runWith w updates waits o).acts = _ ∧ (runWith w updates waits o).ending = _ :=
    runWith_of_plan hplan
  have hends : ∀ e, turnBehind w updates p ends 0 = .ends e →
      (runWith w updates waits o).acts = [.updates] ∧ (runWith w updates waits o).ending = e := by
    intro e hturn
    rw [hacts, hending]
    exact turns_of_ends hturn
  have hhalts : ∀ h : Halt, turnBehind w updates p ends 0 = .ends h.ending.value →
      (runWith w updates waits o).HaltedBy [] h := by
    intro h hturn
    obtain ⟨hacts', hending'⟩ := hends _ hturn
    exact ⟨hacts', hending', by rw [hending', code?_ending]⟩
  refine ⟨?_, ?_, ?_, ?_⟩
  · intro r text hr htext
    have hturn : turnBehind w updates p ends 0 = .last text := by
      rw [turnBehind_of_ok hpublish hr, value_writeTurn_ok htext, hwatch, if_neg Bool.false_ne_true]
    rw [hacts, hending]
    exact turns_of_last hturn
  · intro r h hr htext
    obtain rfl := eq_unknown_of_written htext
    exact hhalts .unknown ((turnBehind_of_ok hpublish hr).trans (value_writeTurn_error htext))
  · intro hend
    refine hends (.exits 1) ?_
    rw [turnBehind_of_cancelled hpublish hend, hwatch, if_neg Bool.false_ne_true]
  · intro h hend hne
    exact hhalts h (turnBehind_of_halt hpublish hend hne)

theorem isWatch_runWith (hplan : (start w o).plan = .ok p) (hpublish : Publish (updates p) ends)
    (hwatch : p.options.watch = true) : IsWatch w p ends waits (runWith w updates waits o) := by
  obtain ⟨hrun, hrun'⟩ : (runWith w updates waits o).acts = _ ∧ (runWith w updates waits o).ending = _ :=
    runWith_of_plan hplan
  -- What ends the run ends it in the turn behind those that it passes.
  have hhalts : ∀ texts, ∀ m ≤ waits, (∀ n < m, Passes w p ends texts n) → ∀ h : Halt,
      turnBehind w updates p ends m = .ends h.ending.value →
      (runWith w updates waits o).HaltedBy ((List.range m).flatMap (turnActs ends texts)) h := by
    intro texts m hm hpasses h hturn
    obtain ⟨hacts, hending⟩ := turns_prefix hpublish hwatch hpasses hm
    obtain ⟨hacts', hending'⟩ := turns_of_ends (k := waits - m) hturn
    rw [hacts', ← hrun] at hacts
    rw [hending', ← hrun'] at hending
    exact ⟨hacts, hending, by rw [hending, code?_ending]⟩
  refine ⟨?_, ?_, ?_⟩
  · intro texts hpasses
    obtain ⟨hacts, hending⟩ := turns_prefix hpublish hwatch (fun n hn => hpasses n (by omega))
      (Nat.le_refl waits)
    have hturn := turnBehind_of_passes hpublish hwatch (hpasses waits (Nat.le_refl waits))
    obtain ⟨hacts', hending'⟩ := turns_of_next_zero hturn
    rw [Nat.sub_self] at hacts hending
    rw [hrun, hrun', hacts, hending, hacts', hending', List.range_succ, List.flatMap_append]
    exact ⟨rfl, rfl⟩
  · intro texts m hm hpasses h hend hne
    exact hhalts texts m hm hpasses h (turnBehind_of_halt hpublish hend hne)
  · intro texts m hm hpasses h hgoes htext
    obtain rfl := eq_unknown_of_written htext
    refine hhalts texts m hm hpasses .unknown ?_
    rw [turnBehind_of_goesOn hpublish hwatch hgoes, value_writeTurn_error htext]

/-! ## 4. Cycles that sessions answer -/

def Surroundings.cycleEnds (w : Surroundings) (p : Plan) : Ends := fun n =>
  (Cycle.run (.steady (w.now n) (w.session n)) ⟨false, false, p.options.timeout.isSome⟩
    p.settings).value.mapError fun a => .ofUpdate (.aborted a)

theorem publish_updates (w : Surroundings) (p : Plan) : Publish (w.updates p) (w.cycleEnds p) := by
  intro n state
  rw [Surroundings.updates, updateOf, Logged.value_bind, Widget.value_update, Surroundings.cycleEnds]
  cases (Cycle.run (.steady (w.now n) (w.session n)) ⟨false, false, p.options.timeout.isSome⟩
    p.settings).value with
  | ok r => rfl
  | error a => rfl

theorem zoned_of_cycleEnds {r : CycleResult} (hr : w.cycleEnds p n = .ok r) : ∀ i ∈ r.items, i.kind = .zoned := by
  unfold Surroundings.cycleEnds at hr
  cases hrun : (Cycle.run (.steady (w.now n) (w.session n)) ⟨false, false, p.options.timeout.isSome⟩
    p.settings).value with
  | ok r' =>
    rw [hrun] at hr
    obtain rfl : r' = r := Except.ok.inj hr
    have hcomes : Cycle.CanComeTo p.settings r' := ⟨_, .inr ⟨_, hrun⟩⟩
    exact hcomes.fits.zoned
  | error a =>
    rw [hrun] at hr
    cases hr

theorem text_of_placeholder (hformat : p.options.format = .html) (hnone : ∀ k ≤ n, ∀ r, ends k ≠ .ok r) :
    textIn w p ends n = .ok (Html.render (Html.loadingPage p.settings.title) ++ "\n") := by
  obtain ⟨-, hinitial, -⟩ | ⟨k, hk, r, hr, -⟩ := isPublished_shownIn ends n
  · rw [textIn, hinitial, written, hformat]
    rfl
  · exact absurd hr (hnone k hk r)

/-- A run whose settings can be read, whose log level there is and whose log opens does what its cycles
end with, whatever they end with and in either format. Without watching it is one cycle: a result is
written once and the run exits with 0, and a cycle that was given up exits with 1 and writes nothing. With
watching every cycle that completes or is given up is followed by one text, which shows what the completed
cycles so far have published, and by one wait; the first halt of another kind ends the run at once. What
the completed cycles have published can be written if their items are dated, as they are in every cycle
that a session answers; before the first of them the page is the placeholder. -/
theorem every_run_follows_its_cycles (w : Surroundings) (o : Options) (updates : Updates) (ends : Ends)
    (waits : Nat) {s : Settings} {level : LogLevel} {log : Log}
    (hsettings : (Settings.load w.holds w.directory o.config).value = .ok s)
    (hlevel : LogLevel.ofText? (levelText o s) = some level)
    (hlog : (Log.start w.holds w.directory level (logPath o s)).value = .ok log)
    (hpublish : Publish (updates ⟨o, s.withDefaults, log⟩) ends) :
    let p : Plan := ⟨o, s.withDefaults, log⟩
    (o.watch = false → IsOnce w p ends (runWith w updates waits o)) ∧
    (o.watch = true → IsWatch w p ends waits (runWith w updates waits o)) ∧
    (∀ n, IsPublished ends n (shownIn ends n)) ∧
    (∀ n h, ends (n + 1) = .error h → shownIn ends (n + 1) = shownIn ends n) ∧
    (∀ n, (∀ k ≤ n, ∀ r, ends k = .ok r → ∀ i ∈ r.items, i.kind = .zoned) →
      ∃ text, textIn w p ends n = .ok text) ∧
    (∀ n, o.format = .html → (∀ k ≤ n, ∀ r, ends k ≠ .ok r) →
      textIn w p ends n = .ok (Html.render (Html.loadingPage s.title) ++ "\n")) ∧
    (∀ words, Options.read words = .ok o → run w waits words = runWith w w.updates waits o) ∧
    Publish (w.updates p) (w.cycleEnds p) ∧
    ∀ n r, w.cycleEnds p n = .ok r → ∀ i ∈ r.items, i.kind = .zoned := by
  have hplan := plan_start hsettings hlevel hlog
  refine ⟨isOnce_runWith hplan hpublish, isWatch_runWith hplan hpublish, isPublished_shownIn ends,
    fun n h hend => shownIn_succ_of_error hend,
    fun n hdated => exists_written rfl (isDated_shownIn hdated),
    fun n hformat hnone => text_of_placeholder hformat hnone, ?_,
    publish_updates w _, fun n r => zoned_of_cycleEnds⟩
  intro words hwords
  rw [run, hwords]

/-- Surroundings in which every file is a document that sets nothing and every feed is empty. -/
def bareSurroundings : Surroundings where
  directory := []
  holds _ := some (.file [0x3C, 0x77, 0x2F, 0x3E])
  session _ := .ofPages Widget.emptyPages
  clock _ := default

/-- A cycle is given up, the next one completes, a third one is given up, and then a value is wrong. -/
def fourEnds : Ends
  | 0 | 2 => .error .cancelled
  | 1 => .ok default
  | _ => .error (.badValue "")

def fourUpdates : Updates := fun _ n s => pure ((fourEnds n).map s.begun.completed)

/-- Four cycles of a run that goes on: three texts with their waits, and an exit with 2. -/
theorem watched_run_of_four_cycles : ∃ page page',
    (runWith bareSurroundings fourUpdates 5 { watch := true }).acts =
      [.updates, .writes (Html.render (Html.loadingPage "Videos") ++ "\n"), .waits 60000000,
        .updates, .writes page, .waits 1800000000, .updates, .writes page', .waits 1800000000,
        .updates] ∧
    (runWith bareSurroundings fourUpdates 5 { watch := true }).ending.code? = some 2 := by
  have hsettings : (Settings.load bareSurroundings.holds [] "configs/videos.xml").value = .ok .unset := rfl
  have hlevel : LogLevel.ofText? "INFO" = some ⟨"INFO", 20⟩ := rfl
  have hlog : (Log.start bareSurroundings.holds [] ⟨"INFO", 20⟩ none).value = .ok ⟨⟨"INFO", 20⟩, none⟩ := rfl
  obtain ⟨-, hwatch, -, -, hwritten, hplaceholder, -⟩ :=
    every_run_follows_its_cycles bareSurroundings { watch := true } fourUpdates fourEnds 5 hsettings hlevel
      hlog fun n s => rfl
  have hdated : ∀ k r, fourEnds k = .ok r → ∀ i ∈ r.items, i.kind = .zoned := by
    intro k r hr i hi
    rcases k with _ | _ | _ | k
    · cases hr
    · obtain rfl : default = r := Except.ok.inj hr
      cases hi
    · cases hr
    · cases hr
  obtain ⟨texts, htexts⟩ := Classical.skolem.mp fun n => hwritten n fun k _ => hdated k
  have hgoes : ∀ n < 3, GoesOn (fourEnds n) := by
    intro n hn
    obtain rfl | rfl | rfl : n = 0 ∨ n = 1 ∨ n = 2 := by omega
    · exact .inr rfl
    · exact .inl ⟨_, rfl⟩
    · exact .inr rfl
  obtain ⟨hacts, -, hcode⟩ :=
    (hwatch rfl).halted texts 3 (by omega) (fun n hn => ⟨hgoes n hn, htexts n⟩) _ rfl nofun
  have hfirst := hplaceholder 0 rfl fun k hk r hr => by
    obtain rfl : k = 0 := by omega
    cases hr
  rw [htexts 0] at hfirst
  refine ⟨texts 1, texts 2, ?_, hcode⟩
  rw [hacts, ← show texts 0 = Html.render (Html.loadingPage "Videos") ++ "\n" from Except.ok.inj hfirst]
  rfl

end VideoWall.Command
