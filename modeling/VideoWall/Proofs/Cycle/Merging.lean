import VideoWall.Proofs.Cycle.Gathering

/-!
# One sort of all items

A cycle sorts the items of each provider and then all of them; where the clock stands still this is one
stable sort of the items of all sources, one behind the other. Main statement:
`every_cycle_sorts_once`.
-/

namespace VideoWall.Cycle

open Fetch (Answers)

variable {env : Environment} {s : Settings} {answers : Provider → Answers} {t : Stamp}

/-! ## 1. All sources, one behind the other -/

/-- The items of a source, read at one time: one for each presentable entry of its document, and none
if it failed or the pool of its provider cannot be started. -/
def itemsOfSource (env : Environment) (t : Stamp) (s : Settings) (answers : Provider → Answers)
    (p : Provider) (source : String) : List Item :=
  if (order s p).IsStartable env then
    match answers p source with
    | .ok d => d.presented t p s.videoUrlTemplate
    | .error _ => []
  else []

/-- The items of all channels, then of all playlists, then of all named feeds. -/
def concatenated (env : Environment) (t : Stamp) (s : Settings) (answers : Provider → Answers) :
    List Item :=
  (s.channels.flatMap fun id => itemsOfSource env t s answers .youtube id) ++
    (s.playlists.flatMap fun id => itemsOfSource env t s answers .youtube (Source.ofPlaylist id)) ++
    s.rumbleChannels.flatMap fun name => itemsOfSource env t s answers .rumble name

theorem flatMap_sources (env : Environment) (t : Stamp) (s : Settings)
    (answers : Provider → Answers) :
    (Provider.all.flatMap fun p => (s.sources p).flatMap (itemsOfSource env t s answers p)) =
      concatenated env t s answers := by
  unfold concatenated
  show (s.channels ++ s.playlists.map Source.ofPlaylist).flatMap _ ++
    (s.rumbleChannels.flatMap _ ++ []) = _
  rw [List.append_nil, List.flatMap_append, List.flatMap_map]

theorem flatMap_zipIdx {α β : Type} (f : α → List β) (xs : List α) (k : Nat) :
    (xs.zipIdx k).flatMap (fun (x, _) => f x) = xs.flatMap f := by
  induction xs generalizing k with
  | nil => rfl
  | cons x xs ih =>
    rw [List.zipIdx_cons, List.flatMap_cons, List.flatMap_cons, ih]

theorem contributed_of_stopped (hclock : ∀ p i j, env.clock.reading p i j = t) (p : Provider) :
    contributed env s answers p = (s.sources p).flatMap (itemsOfSource env t s answers p) := by
  -- The clock shows the same time at every source, so the places of the sources do not matter.
  have hstopped : env.clock.reading p = fun _ _ => t := funext fun i => funext fun j => hclock p i j
  unfold contributed
  by_cases hstart : (order s p).IsStartable env
  · have hsource : ∀ source, Fetch.itemsOfAnswer (fun _ => t) p s.videoUrlTemplate (answers p source) =
        itemsOfSource env t s answers p source := by
      intro source
      rw [itemsOfSource, if_pos hstart]
      cases answers p source with
      | ok d => exact d.items_of_stopped t p s.videoUrlTemplate
      | error f => rfl
    rw [if_pos hstart, ← flatMap_zipIdx _ (s.sources p) 0]
    show Fetch.itemsOfSources (env.clock.reading p) p s.videoUrlTemplate (answers p) (s.sources p) = _
    unfold Fetch.itemsOfSources
    simp only [hstopped, hsource]
  · have hsource : ∀ source, itemsOfSource env t s answers p source = [] :=
      fun source => if_neg hstart
    rw [if_neg hstart]
    symm
    apply List.flatMap_eq_nil_iff.mpr
    intro source _
    exact hsource source

theorem flatMap_contributed (answers : Provider → Answers)
    (hclock : ∀ p i j, env.clock.reading p i j = t) :
    Provider.all.flatMap (contributed env s answers) = concatenated env t s answers := by
  rw [← flatMap_sources]
  congr 1
  funext p
  exact contributed_of_stopped hclock p

/-! ## 2. The items of a cycle -/

theorem instant_dropped_le {items : List Item}
    (h : items.Pairwise fun a b => b.instant ≤ a.instant) (n : Nat) :
    ∀ kept ∈ items.take n, ∀ dropped ∈ items.drop n, dropped.instant ≤ kept.instant := by
  rw [← List.take_append_drop n items, List.pairwise_append] at h
  exact h.2.2

theorem items_resultOf (hclock : ∀ p i j, env.clock.reading p i j = t) :
    (resultOf env s answers).items =
      (Item.sortByInstant (concatenated env t s answers)).take (Settings.effectiveLimit s.limit) := by
  rw [← flatMap_contributed answers hclock]
  rfl

/-- However the tasks of its pools interleave, the items of a cycle that nobody cancels, whose requests
come back and whose clock stands still are the first ones of one list, as many as the limit allows. This
list is the only one that holds the items of all channels, playlists and named feeds that succeed, each
as often as they do, newest first, and those of one instant in the order of their sources. Sorting
provider by provider before gives the same list. -/
theorem every_cycle_sorts_once (env : Environment) (s : Settings) (answers : Provider → Answers)
    (t : Stamp) (hclock : ∀ p i j, env.clock.reading p i j = t)
    (hanswers : AnsweredBy env.session s answers) :
    (∃ ended, EndsWith env s false false ended) ∧
    ∃ sorted, sorted = Item.sortByInstant (concatenated env t s answers) ∧
      Item.IsNewestFirst (concatenated env t s answers) sorted ∧
      (∀ other, Item.IsNewestFirst (concatenated env t s answers) other → other = sorted) ∧
      (Item.sortByInstant (Provider.all.flatMap fun p =>
        Item.sortByInstant ((s.sources p).flatMap (itemsOfSource env t s answers p))) = sorted) ∧
      (∀ i ∈ sorted, ∃ posted z, i.posted = some posted ∧ posted.offset = some z ∧
        i.instant = posted.wallClock - z.microseconds) ∧
      ∀ ended, IsUncancelledEnd env s ended → ∃ result, ended.value = .ok result ∧
        result.items = sorted.take (Settings.effectiveLimit s.limit) ∧
        ∀ kept ∈ result.items, ∀ dropped ∈ sorted.drop (Settings.effectiveLimit s.limit),
          dropped.instant ≤ kept.instant := by
  -- All the rest follows from the sort being the only list newest first.
  have hall := flatMap_contributed (s := s) answers hclock
  have hsorted := Item.isNewestFirst_sortByInstant (concatenated env t s answers)
  refine ⟨exists_endsWith hanswers, _, rfl, hsorted, ?_, ?_, ?_, ?_⟩
  · intro other hother
    exact hother.eq hsorted
  · rw [Item.sortByInstant_flatMap, flatMap_sources]
  · intro i hi
    have hmem : i ∈ Provider.all.flatMap (contributed env s answers) := by
      rw [hall]
      exact hsorted.perm.mem_iff.mp hi
    obtain ⟨p, -, hp⟩ := List.mem_flatMap.mp hmem
    exact Item.instant_of_zoned (kind_of_mem_contributed i hp)
  · intro ended hended
    obtain ⟨hvalue, -⟩ := hended.answered hanswers
    refine ⟨_, hvalue, ?_, ?_⟩
    · rw [← hall]
      rfl
    · show ∀ kept ∈ (Item.sortByInstant (Provider.all.flatMap _)).take _, _
      rw [hall]
      exact instant_dropped_le hsorted.ordered _

def roomForTwo : Settings :=
  { Settings.unset with
    channels := ["UCa"], playlists := ["PL"], rumbleChannels := ["r"], limit := some 2 }

def feedOf (title published : String) : Feed.Facts where
  version := some "rss20"
  entries := [⟨some title, some published, some "link", some "id", [], none⟩]

/-- The playlist is older than the channel; the named feed, far from universal time, is not. -/
def tiedPages (url : String) : Except Failure Feed.Facts :=
  if url = Source.feedUrl .youtube "UCa" false then .ok (feedOf "Noon" "2024-01-02T12:00:00+00:00")
  else if url = Source.feedUrl .rumble "r" false then
    .ok (feedOf "Abroad" "Tue, 02 Jan 2024 14:00:00 +0200")
  else .ok (feedOf "Morning" "2024-01-02T09:00:00+00:00")

/-- Three items of which two show the same instant in different zones, and room for these two. -/
theorem tied_cycle_sorts_once :
    ∃ ended result, EndsWith (.steady default (.ofPages tiedPages)) roomForTwo false false ended ∧
      ended.value = .ok result ∧ result.items.map (·.title) = ["Noon", "Abroad"] := by
  let env : Environment := .steady default (.ofPages tiedPages)
  let t : Stamp := { (default : Stamp) with offset := some .utc }
  let answers := answersOfPages tiedPages roomForTwo
  obtain ⟨⟨ended, hended⟩, sorted, hsorted, -, -, -, -, hevery⟩ :=
    every_cycle_sorts_once env roomForTwo answers t (fun _ _ _ => rfl)
      (answeredBy_ofPages tiedPages roomForTwo)
  obtain ⟨result, hvalue, hitems, -⟩ := hevery ended (.inl hended)
  refine ⟨ended, result, hended, hvalue, ?_⟩
  obtain ⟨noon, morning, abroad, hconcatenated, htie, hnoon, habroad, holder⟩ :
      ∃ noon morning abroad, concatenated env t roomForTwo answers = [noon, morning, abroad] ∧
        noon.instant = abroad.instant ∧ noon.title = "Noon" ∧ abroad.title = "Abroad" ∧
        morning.instant < noon.instant :=
    ⟨_, _, _, rfl, by decide, rfl, rfl, by decide⟩
  have hsort : Item.sortByInstant [noon, morning, abroad] = [noon, abroad, morning] := by
    have hkeep : abroad.instant ≤ noon.instant ∧ morning.instant ≤ abroad.instant := by omega
    have hmove : ¬ noon.instant ≤ morning.instant ∧ ¬ abroad.instant ≤ morning.instant := by omega
    simp [Item.sortByInstant, List.mergeSort, Item.notOlder, hkeep, hmove, Int.le_of_lt holder]
  rw [hitems, hsorted, hconcatenated, hsort]
  show [noon.title, abroad.title] = _
  rw [hnoon, habroad]

end VideoWall.Cycle
