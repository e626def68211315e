import VideoWall.Cycle.Steps
import VideoWall.Proofs.Feed.Items
import VideoWall.Proofs.Item.NewestFirst
import VideoWall.Proofs.Pool.Alignment

/-!
# Fetches whose requests come back

When every request of an order comes back, with a document or with a failure, the fetch is decided by
these answers: its items are those of the documents in the order of the sources, its failures are
counted and reported one by one, and only a pool that cannot be started puts all of that aside. Main
statements: `Order.endsWith_iff` and `Order.afterPool_run`.
-/

namespace VideoWall.Fetch

abbrev Answers := String → Except Failure Feed.Document

/-! ## 1. What the answers amount to -/

/-- Whether every request of an order comes back, with given answers. -/
def Order.AnsweredBy (session : Session) (o : Order) (answers : Answers) : Prop :=
  ∀ source ∈ o.sources,
    outcome o.provider session (Source.feedUrl o.provider source o.includeShorts) =
      .done (answers source)

def failures (answers : Answers) (sources : List String) : List (String × Failure) :=
  sources.filterMap fun source => (Pool.error? (answers source)).map (source, ·)

def itemsOfAnswer (now : Nat → Stamp) (p : Provider) (template : String) :
    Except Failure Feed.Document → List Item
  | .ok d => (d.items now p template).value
  | .error _ => []

def itemsOfSources (now : Nat → Nat → Stamp) (p : Provider) (template : String) (answers : Answers)
    (sources : List String) : List Item :=
  sources.zipIdx.flatMap fun (source, n) => itemsOfAnswer (now n) p template (answers source)

def reports (p : Provider) (failed : List (String × Failure)) : List Notice :=
  failed.map fun (source, f) => .feedFailed p source f

/-- Why the pool of an order cannot be started, if it cannot: it has no workers, or the system refuses
one of its tasks. -/
def Order.fault? (env : Environment) (o : Order) : Option PoolFault :=
  if o.workers < 1 then some (.notPositive o.workers)
  else ((env.refusal o.provider).filter (·.after < o.sources.length)).map (.cannotStart ·.why)

def Order.IsStartable (env : Environment) (o : Order) : Prop :=
  1 ≤ o.workers ∧ ∀ r ∈ env.refusal o.provider, o.sources.length ≤ r.after

def Order.items (env : Environment) (o : Order) (answers : Answers) : List Item :=
  itemsOfSources (env.clock.reading o.provider) o.provider o.template answers o.sources

def Order.ending (o : Order) (items : List Item) (failed : Nat) : Except Stop (List Item) :=
  if items = [] then .error (.noContent (.nothingCollected o.provider.label) failed)
  else if failed = 0 then .ok (Item.sortByInstant items)
  else .error (.partialContent (Item.sortByInstant items) failed)

variable {now : Nat → Nat → Stamp} {p : Provider} {template : String} {answers : Answers}
  {sources : List String} {env : Environment} {o : Order}

/-! ## 2. Collecting -/

theorem Order.fault?_eq_none : o.fault? env = none ↔ o.IsStartable env := by
  unfold fault? IsStartable
  by_cases hworkers : o.workers < 1
  · rw [if_pos hworkers]
    constructor
    · intro h
      cases h
    · intro h
      omega
  · rw [if_neg hworkers, Option.map_eq_none_iff, Option.filter_eq_none_iff]
    have hpositive : 1 ≤ o.workers := by omega
    simp only [decide_eq_true_eq, Nat.not_lt, hpositive, true_and, Option.mem_def]

instance : Decidable (o.IsStartable env) :=
  decidable_of_iff _ Order.fault?_eq_none

def withAnswer (answers : Answers) (source : String) :
    String × Option Feed.Document × Option Failure :=
  (source, (answers source).toOption, Pool.error? (answers source))

theorem withAnswer_ok {source : String} {d : Feed.Document} (h : answers source = .ok d) :
    withAnswer answers source = (source, some d, none) := by
  rw [withAnswer, h]
  rfl

theorem withAnswer_error {source : String} {f : Failure} (h : answers source = .error f) :
    withAnswer answers source = (source, none, some f) := by
  rw [withAnswer, h]
  rfl

theorem zip_ofResults (answers : Answers) (sources : List String) :
    sources.zip ((Pool.Returned.ofResults (sources.map answers)).results.zip
      (Pool.Returned.ofResults (sources.map answers)).errors) =
      sources.map (withAnswer answers) := by
  induction sources with
  | nil => rfl
  | cons s rest ih => exact congrArg (withAnswer answers s :: ·) ih

theorem failures_cons_ok {source : String} {d : Feed.Document} (h : answers source = .ok d) :
    failures answers (source :: sources) = failures answers sources := by
  unfold failures
  rw [List.filterMap_cons_none]
  rw [h]
  rfl

theorem failures_cons_error {source : String} {f : Failure} (h : answers source = .error f) :
    failures answers (source :: sources) = (source, f) :: failures answers sources := by
  unfold failures
  rw [List.filterMap_cons_some]
  rw [h]
  rfl

theorem shift_clock (now : Nat → Nat → Stamp) (k : Nat) :
    (fun n => now (n + 1 + k)) = fun n => now (n + (k + 1)) :=
  funext fun n => congrArg now (by omega)

theorem collect_from (now : Nat → Nat → Stamp) (k : Nat) :
    (collect (fun n => now (n + k)) p template
        (sources.map (withAnswer answers))).value =
      .ok ((sources.zipIdx k).flatMap fun (s, n) => itemsOfAnswer (now n) p template (answers s),
        (failures answers sources).length) ∧
    (collect (fun n => now (n + k)) p template
        (sources.map (withAnswer answers))).feedErrors =
      reports p (failures answers sources) := by
  -- The clock of the sources behind the first is one source ahead, so the induction is on all places
  -- from which one can start to count.
  induction sources generalizing k with
  | nil => exact ⟨rfl, rfl⟩
  | cons s rest ih =>
    obtain ⟨hvalue, herrors⟩ := ih (k + 1)
    rw [← shift_clock now k] at hvalue herrors
    rw [List.map_cons, List.zipIdx_cons, List.flatMap_cons]
    cases h : answers s with
    | ok d =>
      rw [withAnswer_ok h, failures_cons_ok h]
      simp only [collect, Logged.value_bind, Logged.feedErrors_bind, hvalue, herrors, Nat.zero_add, h]
      refine ⟨rfl, ?_⟩
      rw [Feed.Document.items, Feed.feedErrors_itemsOf, List.nil_append, Logged.feedErrors_pure,
        List.append_nil]
    | error f =>
      rw [withAnswer_error h, failures_cons_error h]
      simp only [collect, Logged.value_bind, Logged.feedErrors_bind, hvalue, herrors,
        Logged.feedErrors_say_feedFailed, h]
      refine ⟨rfl, ?_⟩
      rw [Logged.feedErrors_pure, List.append_nil]
      rfl

theorem collect_answers (now : Nat → Nat → Stamp) (p : Provider) (template : String)
    (answers : Answers) (sources : List String) :
    (collect now p template
        (sources.map (withAnswer answers))).value =
      .ok (itemsOfSources now p template answers sources, (failures answers sources).length) ∧
    (collect now p template
        (sources.map (withAnswer answers))).feedErrors =
      reports p (failures answers sources) :=
  collect_from now 0

theorem kind_of_mem_itemsOfSources (hnow : ∀ n m, (now n m).isZoned = true) :
    ∀ i ∈ itemsOfSources now p template answers sources, i.kind = .zoned := by
  intro i hi
  obtain ⟨⟨source, n⟩, -, hi⟩ := List.mem_flatMap.mp hi
  simp only at hi
  unfold itemsOfAnswer at hi
  split at hi
  · exact Feed.Document.kind_of_mem_items (hnow n) i hi
  · exact absurd hi List.not_mem_nil

theorem Order.kind_of_mem_items (env : Environment) (o : Order) (answers : Answers) :
    ∀ i ∈ o.items env answers, i.kind = .zoned :=
  kind_of_mem_itemsOfSources fun n m =>
    Stamp.isZoned_of_offset (env.clock.offset_reading o.provider n m)

/-! ## 3. From the end of the pool to the end of the fetch -/

theorem Order.ending_cases (o : Order) (items : List Item) (failed : Nat) :
    items = [] ∧
        o.ending items failed = .error (.noContent (.nothingCollected o.provider.label) failed) ∨
      items ≠ [] ∧ failed = 0 ∧ o.ending items failed = .ok (Item.sortByInstant items) ∨
      items ≠ [] ∧ failed ≠ 0 ∧
        o.ending items failed = .error (.partialContent (Item.sortByInstant items) failed) := by
  unfold ending
  by_cases hitems : items = []
  · rw [if_pos hitems]
    exact .inl ⟨hitems, rfl⟩
  · rw [if_neg hitems]
    by_cases hfailed : failed = 0
    · rw [if_pos hfailed]
      exact .inr (.inl ⟨hitems, hfailed, rfl⟩)
    · rw [if_neg hfailed]
      exact .inr (.inr ⟨hitems, hfailed, rfl⟩)

theorem finish_of_zoned {items : List Item} (h : ∀ i ∈ items, i.kind = .zoned) (failed : Nat) :
    (finish o items failed).value = o.ending items failed ∧
      (finish o items failed).feedErrors = [] := by
  unfold finish Order.ending
  by_cases hnil : items = []
  · rw [if_pos hnil, if_pos (List.isEmpty_iff.mpr hnil)]
    exact ⟨rfl, rfl⟩
  · rw [if_neg hnil, if_neg (mt List.isEmpty_iff.mp hnil), Item.newestFirst_of_zoned h]
    by_cases hfailed : failed = 0
    · simp only [if_pos hfailed]
      exact ⟨rfl, rfl⟩
    · simp only [if_neg hfailed]
      exact ⟨rfl, rfl⟩

theorem afterPool_of_answers (o : Order) (answers : Answers) :
    (afterPool env.clock o (.ok (.ofResults (o.sources.map answers)))).value =
      o.ending (o.items env answers) (failures answers o.sources).length ∧
    (afterPool env.clock o (.ok (.ofResults (o.sources.map answers)))).feedErrors =
      reports o.provider (failures answers o.sources) := by
  obtain ⟨hvalue, herrors⟩ :=
    collect_answers (env.clock.reading o.provider) o.provider o.template answers o.sources
  obtain ⟨hend, hquiet⟩ := finish_of_zoned (o := o) (o.kind_of_mem_items env answers)
    (failures answers o.sources).length
  simp only [afterPool, zip_ofResults, Logged.value_bind, Logged.feedErrors_bind, hvalue, herrors]
  refine ⟨hend, ?_⟩
  show _ ++ (finish o (o.items env answers) (failures answers o.sources).length).feedErrors = _
  rw [hquiet, List.append_nil]

theorem Order.outcomes_job (h : o.AnsweredBy env.session answers) :
    (o.job env).outcomes = (o.sources.map answers).map .done := by
  unfold Order.job Order.urls
  rw [List.map_map, List.map_map]
  exact List.map_congr_left h

theorem Order.run_job (h : o.AnsweredBy env.session answers) {c : Cancellation}
    (hc : c.isSet = false) :
    Pool.run (o.job env) c =
      match o.fault? env with
      | some fault => pure (.error (.fault fault))
      | none => pure (.ok (.ofResults (o.sources.map answers))) := by
  have hlength : (o.job env).outcomes.length = o.sources.length := by
    rw [outcomes_job h, List.length_map, List.length_map]
  rw [Pool.run_of_done (outcomes_job h) hc]
  unfold fault? Pool.Job.refusal?
  rw [hlength]
  by_cases hworkers : o.workers < 1
  · have hjob : (o.job env).workers < 1 := hworkers
    rw [if_pos hworkers, if_pos hjob]
    rfl
  · have hjob : ¬ (o.job env).workers < 1 := hworkers
    rw [if_neg hworkers, if_neg hjob]
    have hrefusal : (o.job env).refusal = env.refusal o.provider := rfl
    rw [hrefusal]
    cases (env.refusal o.provider).filter (·.after < o.sources.length) with
    | some r => rfl
    | none => rfl

def Order.conclusion (env : Environment) (o : Order) (answers : Answers) : Except Stop (List Item) :=
  match o.fault? env with
  | some fault => .error (.noContent (.pool fault) o.sources.length)
  | none => o.ending (o.items env answers) (failures answers o.sources).length

def Order.reported (env : Environment) (o : Order) (answers : Answers) : List Notice :=
  match o.fault? env with
  | some _ => []
  | none => reports o.provider (failures answers o.sources)

theorem Order.afterPool_run (h : o.AnsweredBy env.session answers) {c : Cancellation}
    (hc : c.isSet = false) :
    (Pool.run (o.job env) c >>= afterPool env.clock o).value = o.conclusion env answers ∧
      (Pool.run (o.job env) c >>= afterPool env.clock o).feedErrors = o.reported env answers := by
  rw [o.run_job h hc]
  unfold conclusion reported
  cases o.fault? env with
  | some fault => exact ⟨rfl, rfl⟩
  | none =>
    dsimp only
    rw [pure_bind]
    exact afterPool_of_answers o answers

/-! ## 4. All runs of the pool -/

theorem Order.endsWith_iff (h : o.AnsweredBy env.session answers) {c : Cancellation}
    (hc : c.isSet = false) (fetched : Logged (Except Stop (List Item))) :
    o.EndsWith env false false fetched ↔
      fetched = Pool.run (o.job env) c >>= afterPool env.clock o := by
  unfold EndsWith
  simp only [Pool.Job.endsWith_iff (outcomes_job h) hc, exists_eq_left]

theorem Order.EndsWith.answered (h : o.AnsweredBy env.session answers)
    {fetched : Logged (Except Stop (List Item))} (hends : o.EndsWith env false false fetched) :
    fetched.value = o.conclusion env answers ∧ fetched.feedErrors = o.reported env answers := by
  obtain rfl := (o.endsWith_iff h (c := .absent) rfl fetched).mp hends
  exact o.afterPool_run h rfl

theorem Order.exists_endsWith (h : o.AnsweredBy env.session answers) :
    ∃ fetched, o.EndsWith env false false fetched :=
  ⟨_, (o.endsWith_iff h (c := .absent) rfl _).mpr rfl⟩

theorem Order.run_answered (h : o.AnsweredBy env.session answers) {c : Cancellation}
    (hc : c.isSet = false) :
    (run env c o).value = o.conclusion env answers ∧
      (run env c o).feedErrors = o.reported env answers := by
  obtain ⟨hvalue, herrors⟩ := o.afterPool_run h hc
  -- Requests are no reports of failures.
  have hquiet : (Logged.sayAll (requests env o)).feedErrors = [] := by
    unfold requests
    split
    · rfl
    · exact Logged.feedErrors_sayAll_map (fun _ => rfl) _
  refine ⟨hvalue, ?_⟩
  rw [run, Logged.feedErrors_bind, hquiet, List.nil_append]
  exact herrors

theorem Order.EndsWith.mono {before after : Bool} {fetched : Logged (Except Stop (List Item))}
    (h : o.EndsWith env before after fetched) (hbefore : before = true) : after = true := by
  obtain ⟨how, ⟨m, hleads, hm, -⟩, -⟩ := h
  rw [← hm]
  exact hleads.isCancelled_mono hbefore

end VideoWall.Fetch
