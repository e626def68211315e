import VideoWall.Proofs.Fetch.Answered

/-!
# Cycles whose requests come back

When every request of a cycle comes back, the cycle has one result, whatever the order in which the
tasks of its pools finish: each provider adds its items, its failures and at most one message. Main
statements: `exists_endsWith` and `IsUncancelledEnd.answered`.
-/

namespace VideoWall

/-- A session in which every request comes back: with a page of given facts, or with a failure. -/
def Session.ofPages (pages : String → Except Failure Feed.Facts) : Session := fun url =>
  match pages url with
  | .ok facts => .page 200 "OK" (.facts facts)
  | .error f => .failure f

namespace Cycle

open Fetch (Answers)

variable {env : Environment} {s : Settings} {answers : Provider → Answers}

/-! ## 1. What a provider adds -/

/-- Whether every request of a cycle comes back, with given answers. -/
def AnsweredBy (session : Session) (s : Settings) (answers : Provider → Answers) : Prop :=
  ∀ p, (order s p).AnsweredBy session (answers p)

def answersOfPages (pages : String → Except Failure Feed.Facts) (s : Settings) (p : Provider) :
    Answers := fun source =>
  let url := Source.feedUrl p source s.includeShorts
  match pages url with
  | .ok facts => facts.document p url
  | .error f => .error f

theorem answeredBy_ofPages (pages : String → Except Failure Feed.Facts) (s : Settings) :
    AnsweredBy (.ofPages pages) s (answersOfPages pages s) := by
  intro p source _
  show Fetch.outcome p (.ofPages pages) (Source.feedUrl p source s.includeShorts) = _
  unfold Fetch.outcome Session.ofPages answersOfPages
  dsimp only
  cases pages (Source.feedUrl p source s.includeShorts) with
  | ok facts => rfl
  | error f => rfl

def addedItems : Except Fetch.Stop (List Item) → List Item
  | .ok items | .error (.partialContent items _) => items
  | .error _ => []

def addedFailures : Except Fetch.Stop (List Item) → Nat
  | .error (.partialContent _ failed) | .error (.noContent _ failed) => failed
  | _ => 0

def addedMessage? : Except Fetch.Stop (List Item) → Option String
  | .error (.partialContent _ failed) => some (missingVideosText failed)
  | .error (.noContent reason _) => some reason.message
  | _ => none

def Gathered.plus (g : Gathered) (ends : Provider → Except Fetch.Stop (List Item))
    (ps : List Provider) : Gathered where
  items := g.items ++ ps.flatMap fun p => addedItems (ends p)
  failedCount := g.failedCount + ps.foldr (fun p n => addedFailures (ends p) + n) 0
  providerErrors := g.providerErrors ++ ps.filterMap fun p => (addedMessage? (ends p)).map (p, ·)

/-- What the fetch from a provider comes to when its requests come back. A provider without sources
adds nothing. -/
def endOf (env : Environment) (s : Settings) (answers : Provider → Answers) (p : Provider) :
    Except Fetch.Stop (List Item) :=
  if s.sources p = [] then .ok [] else (order s p).conclusion env (answers p)

def GoesOn (fetched : Except Fetch.Stop (List Item)) : Prop :=
  ∀ a, fetched ≠ .error (.aborted a)

theorem goesOn_ending (o : Fetch.Order) (items : List Item) (failed : Nat) :
    GoesOn (o.ending items failed) := by
  intro a h
  rcases o.ending_cases items failed with ⟨-, heq⟩ | ⟨-, -, heq⟩ | ⟨-, -, heq⟩
  · rw [heq] at h
    cases h
  · rw [heq] at h
    cases h
  · rw [heq] at h
    cases h

theorem goesOn_conclusion (o : Fetch.Order) (answers : Answers) :
    GoesOn (o.conclusion env answers) := by
  unfold Fetch.Order.conclusion
  split
  · intro a h
    cases h
  · exact goesOn_ending o _ _

theorem Gathered.plus_nil (g : Gathered) (ends : Provider → Except Fetch.Stop (List Item)) :
    g.plus ends [] = g := by
  simp only [plus, List.flatMap_nil, List.append_nil, List.foldr_nil, Nat.add_zero,
    List.filterMap_nil]

theorem Gathered.plus_cons (g : Gathered) (ends : Provider → Except Fetch.Stop (List Item))
    (p : Provider) (ps : List Provider) :
    g.plus ends (p :: ps) = (g.plus ends [p]).plus ends ps := by
  simp only [plus, List.flatMap_cons, List.flatMap_nil, List.append_nil, List.append_assoc,
    List.foldr_cons, List.foldr_nil, Nat.add_zero, Nat.add_assoc, List.filterMap_cons,
    List.filterMap_nil]
  cases addedMessage? (ends p) with
  | none => simp only [Option.map_none, List.nil_append]
  | some m => simp only [Option.map_some, List.singleton_append]

theorem Gathered.plus_skipped (g : Gathered) {p : Provider} (h : s.sources p = []) :
    g.plus (endOf env s answers) [p] = g := by
  have hend : endOf env s answers p = .ok [] := if_pos h
  simp only [plus, List.flatMap_cons, List.flatMap_nil, List.foldr_cons, List.foldr_nil,
    List.filterMap_cons, List.filterMap_nil, hend, addedItems, addedFailures, addedMessage?,
    Option.map_none, List.append_nil, Nat.add_zero]

theorem Gathered.absorb_of_goesOn (g : Gathered) {p : Provider}
    {ends : Provider → Except Fetch.Stop (List Item)} (h : GoesOn (ends p)) :
    (g.absorb p (ends p)).value = .ok (g.plus ends [p]) ∧
      (g.absorb p (ends p)).feedErrors = [] := by
  unfold plus
  simp only [List.flatMap_cons, List.flatMap_nil, List.foldr_cons, List.foldr_nil,
    List.filterMap_cons, List.filterMap_nil, List.append_nil, Nat.add_zero]
  cases hend : ends p with
  | ok items =>
    refine ⟨?_, rfl⟩
    simp only [absorb, add, addedItems, addedFailures, addedMessage?, Option.map_none,
      List.append_nil, Nat.add_zero]
    rfl
  | error stop =>
    cases stop with
    | noContent reason failed =>
      refine ⟨?_, rfl⟩
      simp only [absorb, fail, addedItems, addedFailures, addedMessage?, Option.map_some,
        List.append_nil]
      rfl
    | partialContent items failed => exact ⟨rfl, rfl⟩
    | aborted a => exact absurd hend (h a)

/-! ## 2. All runs of the pools -/

def reported (env : Environment) (s : Settings) (answers : Provider → Answers)
    (ps : List Provider) : List Notice :=
  ps.flatMap fun p => (order s p).reported env (answers p)

theorem reported_skipped {p : Provider} (h : s.sources p = []) :
    (order s p).reported env (answers p) = [] := by
  unfold Fetch.Order.reported
  split
  · rfl
  · show Fetch.reports p (Fetch.failures (answers p) (s.sources p)) = []
    rw [h]
    rfl

theorem absorb_answered (g : Gathered) {p : Provider} (hs : s.sources p ≠ [])
    {fetched : Logged (Except Fetch.Stop (List Item))}
    (hvalue : fetched.value = (order s p).conclusion env (answers p))
    (herrors : fetched.feedErrors = (order s p).reported env (answers p)) :
    (fetched >>= g.absorb p).value = .ok (g.plus (endOf env s answers) [p]) ∧
      (fetched >>= g.absorb p).feedErrors = (order s p).reported env (answers p) := by
  have hend : endOf env s answers p = fetched.value := by rw [endOf, if_neg hs, hvalue]
  have hgoes : GoesOn (endOf env s answers p) := by
    rw [hend, hvalue]
    exact goesOn_conclusion _ _
  -- What the cycle itself says about a fetch is no report about a feed.
  obtain ⟨habsorbed, hquiet⟩ := g.absorb_of_goesOn hgoes
  rw [Logged.value_bind, Logged.feedErrors_bind, ← hend, habsorbed, hquiet, herrors,
    List.append_nil]
  exact ⟨rfl, rfl⟩

theorem Gathers.mono {before after : Bool} {g : Gathered} {ps : List Provider}
    {r : Logged (Except Abort Gathered)} (h : Gathers env s before g ps after r)
    (hbefore : before = true) : after = true := by
  induction h with
  | done g hmono => exact hmono hbefore
  | skip _ _ ih => exact ih hbefore
  | stop _ hends _ => exact hends.mono hbefore
  | next _ hends _ _ ih => exact ih (hends.mono hbefore)

/-- Whatever the order in which tasks finish, a gathering that nobody cancels adds what the answers
amount to. -/
theorem Gathers.answered (h : AnsweredBy env.session s answers) {before after : Bool}
    {g : Gathered} {ps : List Provider} {r : Logged (Except Abort Gathered)}
    (hgathers : Gathers env s before g ps after r) (hbefore : before = false)
    (hafter : after = false) :
    r.value = .ok (g.plus (endOf env s answers) ps) ∧ r.feedErrors = reported env s answers ps := by
  induction hgathers with
  | done g _ =>
    rw [g.plus_nil]
    exact ⟨rfl, rfl⟩
  | @skip before after g p ps r hs _ ih =>
    obtain ⟨hvalue, herrors⟩ := ih hbefore hafter
    rw [g.plus_cons, g.plus_skipped hs, hvalue, herrors]
    refine ⟨rfl, ?_⟩
    rw [reported, reported, List.flatMap_cons, reported_skipped hs, List.nil_append]
  | @stop before after g p ps a fetched hs hends habort =>
    -- No answer aborts a cycle.
    subst hbefore hafter
    obtain ⟨hvalue, herrors⟩ := hends.answered (h p)
    obtain ⟨habsorbed, -⟩ := absorb_answered g hs hvalue herrors
    rw [Logged.value_bind, habort] at habsorbed
    cases habsorbed
  | @next before between after g g' p ps fetched r hs hends habsorb hrest ih =>
    -- A cycle that has been cancelled stays so, and at the end it is not.
    have hbetween : between = false := by
      cases hb : between with
      | false => rfl
      | true => exact absurd (hrest.mono hb) (by rw [hafter]; exact Bool.false_ne_true)
    subst hbefore hbetween
    obtain ⟨hvalue, herrors⟩ := hends.answered (h p)
    obtain ⟨habsorbed, hquiet⟩ := absorb_answered g hs hvalue herrors
    obtain ⟨hrvalue, hrerrors⟩ := ih rfl hafter
    rw [Logged.value_bind, habsorb] at habsorbed
    obtain rfl := Except.ok.inj habsorbed
    rw [g.plus_cons]
    refine ⟨hrvalue, ?_⟩
    rw [← bind_assoc, Logged.feedErrors_bind, hquiet, hrerrors, reported, reported,
      List.flatMap_cons]

theorem exists_gathers (h : AnsweredBy env.session s answers) (g : Gathered) (ps : List Provider) :
    ∃ r, Gathers env s false g ps false r := by
  induction ps generalizing g with
  | nil => exact ⟨_, .done g id⟩
  | cons p ps ih =>
    by_cases hs : s.sources p = []
    · obtain ⟨r, hr⟩ := ih g
      exact ⟨r, .skip hs hr⟩
    · obtain ⟨fetched, hends⟩ := (order s p).exists_endsWith (h p)
      obtain ⟨hvalue, herrors⟩ := hends.answered (h p)
      obtain ⟨habsorbed, -⟩ := absorb_answered g hs hvalue herrors
      obtain ⟨r, hr⟩ := ih (g.plus (endOf env s answers) [p])
      exact ⟨_, .next hs hends habsorbed hr⟩

theorem gather_answered (h : AnsweredBy env.session s answers) {c : Cancellation}
    (hc : c.isSet = false) (g : Gathered) (ps : List Provider) :
    (gather env c s g ps).value = .ok (g.plus (endOf env s answers) ps) ∧
      (gather env c s g ps).feedErrors = reported env s answers ps := by
  induction ps generalizing g with
  | nil =>
    rw [g.plus_nil]
    exact ⟨rfl, rfl⟩
  | cons p ps ih =>
    obtain ⟨hvalue, herrors⟩ := ih (g.plus (endOf env s answers) [p])
    -- The first provider is skipped, or its fetch comes to what its answers amount to.
    have hfirst : (gatherFrom env c s g p).value = .ok (g.plus (endOf env s answers) [p]) ∧
        (gatherFrom env c s g p).feedErrors = (order s p).reported env (answers p) := by
      unfold gatherFrom
      by_cases hs : s.sources p = []
      · rw [if_pos (List.isEmpty_iff.mpr hs), g.plus_skipped hs, reported_skipped hs]
        exact ⟨rfl, rfl⟩
      · rw [if_neg (mt List.isEmpty_iff.mp hs)]
        obtain ⟨hfetched, hreports⟩ := (order s p).run_answered (h p) hc
        exact absorb_answered g hs hfetched hreports
    rw [gather, Logged.value_bind, Logged.feedErrors_bind, hfirst.1, hfirst.2, g.plus_cons _ p ps]
    refine ⟨hvalue, ?_⟩
    rw [reported, List.flatMap_cons]
    exact congrArg _ herrors

/-! ## 3. The result -/

/-- The items that a cycle takes from a provider: those of its answers, if its pool can be started. -/
def contributed (env : Environment) (s : Settings) (answers : Provider → Answers) (p : Provider) :
    List Item :=
  if (order s p).IsStartable env then (order s p).items env (answers p) else []

/-- The number of sources of a provider that a cycle counts as failed: all if its pool cannot be
started. -/
def lost (env : Environment) (s : Settings) (answers : Provider → Answers) (p : Provider) : Nat :=
  if (order s p).IsStartable env then (Fetch.failures (answers p) (s.sources p)).length
  else (s.sources p).length

theorem addedItems_ending (o : Fetch.Order) (items : List Item) (failed : Nat) :
    addedItems (o.ending items failed) = Item.sortByInstant items := by
  rcases o.ending_cases items failed with ⟨hitems, heq⟩ | ⟨-, -, heq⟩ | ⟨-, -, heq⟩
  · rw [heq, Item.sortByInstant_eq_nil.mpr hitems]
    rfl
  · rw [heq]
    rfl
  · rw [heq]
    rfl

theorem addedFailures_ending (o : Fetch.Order) (items : List Item) (failed : Nat) :
    addedFailures (o.ending items failed) = failed := by
  rcases o.ending_cases items failed with ⟨-, heq⟩ | ⟨-, hfailed, heq⟩ | ⟨-, -, heq⟩
  · rw [heq]
    rfl
  · rw [heq, hfailed]
    rfl
  · rw [heq]
    rfl

theorem endOf_startable {p : Provider} (hs : s.sources p ≠ [])
    (hstart : (order s p).IsStartable env) :
    endOf env s answers p = (order s p).ending ((order s p).items env (answers p))
      (Fetch.failures (answers p) (s.sources p)).length := by
  rw [endOf, if_neg hs, Fetch.Order.conclusion, Fetch.Order.fault?_eq_none.mpr hstart]
  rfl

theorem endOf_fault {p : Provider} (hs : s.sources p ≠ []) {fault : PoolFault}
    (hfault : (order s p).fault? env = some fault) :
    endOf env s answers p = .error (.noContent (.pool fault) (s.sources p).length) := by
  rw [endOf, if_neg hs, Fetch.Order.conclusion, hfault]
  rfl

theorem exists_fault {o : Fetch.Order} (h : ¬ o.IsStartable env) : ∃ fault, o.fault? env = some fault :=
  Option.ne_none_iff_exists'.mp (mt Fetch.Order.fault?_eq_none.mp h)

theorem contributed_of_nil {p : Provider} (hs : s.sources p = []) :
    contributed env s answers p = [] := by
  have hitems : (order s p).items env (answers p) = [] := by
    show Fetch.itemsOfSources _ _ _ _ (s.sources p) = []
    rw [hs]
    rfl
  rw [contributed, hitems, ite_self]

theorem addedItems_endOf (p : Provider) :
    addedItems (endOf env s answers p) = Item.sortByInstant (contributed env s answers p) := by
  by_cases hs : s.sources p = []
  · rw [contributed_of_nil hs, endOf, if_pos hs]
    exact (Item.sortByInstant_eq_nil.mpr rfl).symm
  · unfold contributed
    by_cases hstart : (order s p).IsStartable env
    · rw [endOf_startable hs hstart, addedItems_ending, if_pos hstart]
    · obtain ⟨fault, hfault⟩ := exists_fault hstart
      rw [endOf_fault hs hfault, if_neg hstart]
      exact (Item.sortByInstant_eq_nil.mpr rfl).symm

theorem addedFailures_endOf (p : Provider) :
    addedFailures (endOf env s answers p) = lost env s answers p := by
  unfold lost
  by_cases hs : s.sources p = []
  · rw [endOf, if_pos hs, hs]
    exact (ite_self 0).symm
  · by_cases hstart : (order s p).IsStartable env
    · rw [endOf_startable hs hstart, addedFailures_ending, if_pos hstart]
    · obtain ⟨fault, hfault⟩ := exists_fault hstart
      rw [endOf_fault hs hfault, if_neg hstart]
      rfl

def messages (env : Environment) (s : Settings) (answers : Provider → Answers) :
    List (Provider × String) :=
  Provider.all.filterMap fun p => (addedMessage? (endOf env s answers p)).map (p, ·)

/-- The result of a cycle whose requests come back: one sort of all items, cut to the limit. -/
def resultOf (env : Environment) (s : Settings) (answers : Provider → Answers) : CycleResult :=
  let items := (Item.sortByInstant (Provider.all.flatMap (contributed env s answers))).take
    (Settings.effectiveLimit s.limit)
  { items
    failedCount := (lost env s answers .youtube + lost env s answers .rumble : Nat)
    status := statusOf (messages env s answers) items
    providerErrors := messages env s answers }

theorem kind_of_mem_contributed {p : Provider} :
    ∀ i ∈ contributed env s answers p, i.kind = .zoned := by
  intro i hi
  unfold contributed at hi
  split at hi
  · exact (order s p).kind_of_mem_items env (answers p) i hi
  · exact absurd hi List.not_mem_nil

def gathered (env : Environment) (s : Settings) (answers : Provider → Answers) : Gathered :=
  ({} : Gathered).plus (endOf env s answers) Provider.all

theorem items_gathered : (gathered env s answers).items =
    Provider.all.flatMap fun p => Item.sortByInstant (contributed env s answers p) := by
  unfold gathered Gathered.plus
  simp only [List.nil_append, addedItems_endOf]

theorem failedCount_gathered : (gathered env s answers).failedCount =
    lost env s answers .youtube + lost env s answers .rumble := by
  show 0 + (addedFailures _ + (addedFailures _ + 0)) = _
  rw [addedFailures_endOf, addedFailures_endOf]
  omega

theorem providerErrors_gathered : (gathered env s answers).providerErrors =
    messages env s answers :=
  List.nil_append _

theorem feedErrors_newest (items : List Item) :
    (Logged.sayAll (newestNotices items)).feedErrors = [] := by
  unfold newestNotices
  exact Logged.feedErrors_sayAll_map (fun _ => rfl) _

theorem finish_gathered (env : Environment) (s : Settings) (answers : Provider → Answers) :
    (finish s (gathered env s answers)).value = .ok (resultOf env s answers) ∧
      (finish s (gathered env s answers)).feedErrors = [] := by
  have hzoned : ∀ i ∈ (gathered env s answers).items, i.kind = .zoned := by
    intro i hi
    rw [items_gathered] at hi
    obtain ⟨p, -, hi⟩ := List.mem_flatMap.mp hi
    exact kind_of_mem_contributed i ((Item.isNewestFirst_sortByInstant _).perm.mem_iff.mp hi)
  unfold finish
  -- The items of each provider are sorted already; one sort of all of them comes to the same.
  rw [Item.newestFirst_of_zoned hzoned, items_gathered, Item.sortByInstant_flatMap,
    failedCount_gathered, providerErrors_gathered]
  refine ⟨rfl, ?_⟩
  dsimp only
  rw [Logged.feedErrors_bind, Logged.feedErrors_bind, Logged.feedErrors_say rfl, feedErrors_newest,
    Logged.feedErrors_pure]
  rfl

theorem conclude_gathered {r : Logged (Except Abort Gathered)}
    (hvalue : r.value = .ok (gathered env s answers))
    (herrors : r.feedErrors = reported env s answers Provider.all) :
    (do
      Logged.say (.cycleStarted s.channels s.playlists s.rumbleChannels)
      conclude s (← r) : Logged (Except Abort CycleResult)).value = .ok (resultOf env s answers) ∧
    (do
      Logged.say (.cycleStarted s.channels s.playlists s.rumbleChannels)
      conclude s (← r) : Logged (Except Abort CycleResult)).feedErrors =
        reported env s answers Provider.all := by
  obtain ⟨hfinish, hquiet⟩ := finish_gathered env s answers
  simp only [Logged.value_bind, Logged.feedErrors_bind, hvalue, herrors, conclude]
  refine ⟨hfinish, ?_⟩
  rw [Logged.feedErrors_say rfl, List.nil_append, hquiet, List.append_nil]

/-- Whether something is an end of a cycle that nobody cancels: of some run of its pools, or the
computed one. -/
def IsUncancelledEnd (env : Environment) (s : Settings)
    (ended : Logged (Except Abort CycleResult)) : Prop :=
  EndsWith env s false false ended ∨ ∃ c : Cancellation, c.isSet = false ∧ ended = run env c s

theorem IsUncancelledEnd.answered (h : AnsweredBy env.session s answers)
    {ended : Logged (Except Abort CycleResult)} (hended : IsUncancelledEnd env s ended) :
    ended.value = .ok (resultOf env s answers) ∧
      ended.feedErrors = reported env s answers Provider.all := by
  rcases hended with ⟨r, hgathers, rfl⟩ | ⟨c, hc, rfl⟩
  · obtain ⟨hvalue, herrors⟩ := hgathers.answered h rfl rfl
    exact conclude_gathered hvalue herrors
  · obtain ⟨hvalue, herrors⟩ := gather_answered h hc {} Provider.all
    exact conclude_gathered hvalue herrors

theorem exists_endsWith (h : AnsweredBy env.session s answers) :
    ∃ ended, EndsWith env s false false ended := by
  obtain ⟨r, hr⟩ := exists_gathers h {} Provider.all
  exact ⟨_, r, hr, rfl⟩

end Cycle

end VideoWall
