import VideoWall.Proofs.Cycle.Accounting
import VideoWall.Proofs.Cycle.Merging
import VideoWall.Proofs.Cycle.Returning

/-!
# The order of the settings

Two cycles are compared whose settings name the same sources in different orders. They count the same
failures and keep the same messages; they show the same items as far as the instants of these decide
their order. Main statement: `order_of_settings_is_immaterial`.
-/

namespace VideoWall

/-! ## 1. Sorting what has been reordered -/

namespace Item

variable {items items' : List Item}

theorem sortByInstant_eq_iff : sortByInstant items' = sortByInstant items ↔
    ∀ instant, atInstant instant items' = atInstant instant items := by
  constructor
  · intro h instant
    rw [← atInstant_sortByInstant instant items', h, atInstant_sortByInstant]
  · intro h
    have hsorted' := isNewestFirst_sortByInstant items'
    have hsorted := isNewestFirst_sortByInstant items
    refine eq_of_ordered_of_atInstant_eq hsorted'.ordered hsorted.ordered fun instant => ?_
    rw [hsorted'.stable, hsorted.stable, h]

theorem pairwise_newer_of_nodup (hordered : items.Pairwise fun a b => b.instant ≤ a.instant)
    (hdistinct : (items.map instant).Nodup) : items.Pairwise fun a b => b.instant < a.instant := by
  have hne : items.Pairwise fun a b => a.instant ≠ b.instant := List.pairwise_map.mp hdistinct
  refine (hordered.and hne).imp fun ⟨hle, hne⟩ => ?_
  omega

theorem sortByInstant_eq_of_perm (hperm : items'.Perm items) (hdistinct : (items.map instant).Nodup) :
    sortByInstant items' = sortByInstant items := by
  have hsorted' := isNewestFirst_sortByInstant items'
  have hsorted := isNewestFirst_sortByInstant items
  have hperm' : (sortByInstant items').Perm items := hsorted'.perm.trans hperm
  have hnewer' : (sortByInstant items').Pairwise fun a b => b.instant < a.instant :=
    pairwise_newer_of_nodup hsorted'.ordered ((hperm'.map instant).nodup_iff.mpr hdistinct)
  have hnewer : (sortByInstant items).Pairwise fun a b => b.instant < a.instant :=
    pairwise_newer_of_nodup hsorted.ordered ((hsorted.perm.map instant).nodup_iff.mpr hdistinct)
  -- No two items can stand both ways round.
  refine List.Perm.eq_of_pairwise ?_ hnewer' hnewer (hperm'.trans hsorted.perm.symm)
  intro a b _ _ hab hba
  omega

end Item

/-! ## 2. Settings in another order -/

/-- Whether settings differ from others at most in the order of their channels, of their playlists and of
their named feeds. -/
inductive Settings.Reorders : Settings → Settings → Prop where
  | intro {s : Settings} {channels playlists rumbleChannels : List String} :
      channels.Perm s.channels → playlists.Perm s.playlists → rumbleChannels.Perm s.rumbleChannels →
      Reorders { s with channels, playlists, rumbleChannels } s

open VideoWall.Cycle VideoWall.Fetch

namespace Settings.Reorders

variable {env : Environment} {s s' : Settings} {answers : Provider → Answers} {p : Provider} {t : Stamp}

theorem sources (h : s'.Reorders s) (p : Provider) : (s'.sources p).Perm (s.sources p) := by
  obtain ⟨hchannels, hplaylists, hrumble⟩ := h
  cases p with
  | youtube => exact hchannels.append (hplaylists.map _)
  | rumble => exact hrumble

theorem sources_eq_nil_iff (h : s'.Reorders s) : s'.sources p = [] ↔ s.sources p = [] := by
  rw [← List.length_eq_zero_iff, ← List.length_eq_zero_iff, (h.sources p).length_eq]

theorem order_eq (h : s'.Reorders s) (p : Provider) :
    order s' p = { order s p with sources := s'.sources p } := by
  cases h
  rfl

theorem fault?_eq (h : s'.Reorders s) : (order s' p).fault? env = (order s p).fault? env := by
  have hlength : (order s' p).sources.length = (order s p).sources.length := (h.sources p).length_eq
  unfold Order.fault?
  rw [hlength, h.order_eq]

theorem isStartable_iff (h : s'.Reorders s) :
    (order s' p).IsStartable env ↔ (order s p).IsStartable env := by
  rw [← Order.fault?_eq_none, ← Order.fault?_eq_none, h.fault?_eq]

theorem answersIn_eq (h : s'.Reorders s) (session : Session) :
    answersIn session s' = answersIn session s := by
  cases h
  rfl

theorem comesBack (h : s'.Reorders s) {session : Session}
    (hback : ∀ p, ∀ source ∈ s.sources p,
      (session (Source.feedUrl p source s.includeShorts)).comesBack = true) :
    ∀ p, ∀ source ∈ s'.sources p,
      (session (Source.feedUrl p source s'.includeShorts)).comesBack = true := by
  intro p source hsource
  have hmem : source ∈ s.sources p := (h.sources p).mem_iff.mp hsource
  cases h
  exact hback p source hmem

/-! ## 3. What both cycles come to -/

theorem length_failures (h : s'.Reorders s) (answers : Answers) :
    (failures answers (s'.sources p)).length = (failures answers (s.sources p)).length :=
  ((h.sources p).filterMap _).length_eq

theorem lost_eq (h : s'.Reorders s) : lost env s' answers p = lost env s answers p := by
  unfold lost
  simp only [h.isStartable_iff, h.length_failures, (h.sources p).length_eq]

theorem itemsOfSource_eq (h : s'.Reorders s) :
    itemsOfSource env t s' answers p = itemsOfSource env t s answers p := by
  funext source
  unfold itemsOfSource
  simp only [h.isStartable_iff]
  cases h
  rfl

theorem flatMap_sources_perm (h : s'.Reorders s) (p : Provider) :
    ((s'.sources p).flatMap (itemsOfSource env t s' answers p)).Perm
      ((s.sources p).flatMap (itemsOfSource env t s answers p)) := by
  rw [h.itemsOfSource_eq]
  exact (h.sources p).flatMap_right _

theorem concatenated_perm (h : s'.Reorders s) :
    (concatenated env t s' answers).Perm (concatenated env t s answers) := by
  rw [← flatMap_sources, ← flatMap_sources]
  exact (h.flatMap_sources_perm .youtube).append ((h.flatMap_sources_perm .rumble).append .nil)

theorem items_eq_nil_iff (h : s'.Reorders s) (hclock : ∀ p i j, env.clock.reading p i j = t)
    (hstart : (order s p).IsStartable env) :
    (order s' p).items env (answers p) = [] ↔ (order s p).items env (answers p) = [] := by
  have hitems' : (order s' p).items env (answers p) = contributed env s' answers p :=
    (if_pos (h.isStartable_iff.mpr hstart)).symm
  have hitems : (order s p).items env (answers p) = contributed env s answers p :=
    (if_pos hstart).symm
  -- As the clock stands still, the other order makes the same items in other places.
  rw [hitems', hitems, contributed_of_stopped hclock, contributed_of_stopped hclock,
    ← List.length_eq_zero_iff, ← List.length_eq_zero_iff, (h.flatMap_sources_perm p).length_eq]

theorem addedMessage?_eq (h : s'.Reorders s) (hclock : ∀ p i j, env.clock.reading p i j = t) :
    addedMessage? (endOf env s' answers p) = addedMessage? (endOf env s answers p) := by
  by_cases hs : s.sources p = []
  · rw [endOf, endOf, if_pos hs, if_pos (h.sources_eq_nil_iff.mpr hs)]
  · have hs' : s'.sources p ≠ [] := mt h.sources_eq_nil_iff.mp hs
    by_cases hstart : (order s p).IsStartable env
    · -- The message names a number of failures at most, and no item.
      rw [endOf_startable hs hstart, endOf_startable hs' (h.isStartable_iff.mpr hstart),
        addedMessage?_ending, addedMessage?_ending, h.length_failures]
      simp only [h.items_eq_nil_iff hclock hstart]
      rfl
    · obtain ⟨fault, hfault⟩ := exists_fault hstart
      rw [endOf_fault hs hfault, endOf_fault hs' (h.fault?_eq.trans hfault)]
      rfl

theorem messages_eq (h : s'.Reorders s) (hclock : ∀ p i j, env.clock.reading p i j = t) :
    messages env s' answers = messages env s answers := by
  unfold messages
  simp only [h.addedMessage?_eq hclock]

end Settings.Reorders

namespace Cycle

open Fetch (Answers)

variable {env : Environment} {s s' : Settings} {answers : Provider → Answers} {t : Stamp}

theorem statusOf_take_of_perm {items items' : List Item} (hperm : items'.Perm items)
    (errors : List (Provider × String)) (n : Nat) :
    statusOf errors (items'.take n) = statusOf errors (items.take n) := by
  have hempty : (items'.take n).isEmpty = (items.take n).isEmpty := by
    rw [Bool.eq_iff_iff, List.isEmpty_iff_length_eq_zero, List.isEmpty_iff_length_eq_zero,
      List.length_take, List.length_take, hperm.length_eq]
  unfold statusOf
  rw [hempty]

theorem status_resultOf_of_reorders (h : s'.Reorders s) (hclock : ∀ p i j, env.clock.reading p i j = t) :
    (resultOf env s' answers).status = (resultOf env s answers).status := by
  have hlimit : s'.limit = s.limit := by
    cases h
    rfl
  have hperm : (Item.sortByInstant (concatenated env t s' answers)).Perm
      (Item.sortByInstant (concatenated env t s answers)) :=
    (Item.isNewestFirst_sortByInstant _).perm.trans
      (h.concatenated_perm.trans (Item.isNewestFirst_sortByInstant _).perm.symm)
  show statusOf (messages env s' answers) (resultOf env s' answers).items =
    statusOf (messages env s answers) (resultOf env s answers).items
  rw [h.messages_eq hclock, items_resultOf hclock, items_resultOf hclock, hlimit,
    statusOf_take_of_perm hperm]

/-- Whatever the order of the channels, playlists and named feeds: a cycle counts the same failures and
has the same status and messages. The whole list of which it shows the first items is the same as well
if and only if the items of each instant are collected in the same order; it is, then, if no two items
show the same instant. -/
theorem order_of_settings_is_immaterial (env : Environment) (s s' : Settings) (t : Stamp)
    (hclock : ∀ p i j, env.clock.reading p i j = t) (hreorders : s'.Reorders s) :
    ((∀ p, ∀ source ∈ s.sources p,
        (env.session (Source.feedUrl p source s.includeShorts)).comesBack = true) →
      HasResults env s ∧ HasResults env s') ∧
    ∀ ended ended' result result', IsUncancelledEnd env s ended → IsUncancelledEnd env s' ended' →
      ended.value = .ok result → ended'.value = .ok result' →
      result'.failedCount = result.failedCount ∧ result'.status = result.status ∧
      result'.providerErrors = result.providerErrors ∧
      ∃ collected collected' whole whole',
        collected = concatenated env t s (answersIn env.session s) ∧
        collected' = concatenated env t s' (answersIn env.session s') ∧
        whole = Item.sortByInstant collected ∧ whole' = Item.sortByInstant collected' ∧
        result.items = whole.take (Settings.effectiveLimit s.limit) ∧
        result'.items = whole'.take (Settings.effectiveLimit s.limit) ∧
        (whole' = whole ↔
          ∀ instant, Item.atInstant instant collected' = Item.atInstant instant collected) ∧
        ((collected.map Item.instant).Nodup → whole' = whole ∧ result'.items = result.items) := by
  have hlimit : s'.limit = s.limit := by
    cases hreorders
    rfl
  refine ⟨fun hback => ?_, ?_⟩
  · exact ⟨hasResults_of_comesBack hback, hasResults_of_comesBack (hreorders.comesBack hback)⟩
  · intro ended ended' result result' hended hended' hvalue hvalue'
    obtain rfl := hended.eq_resultOf hvalue
    obtain rfl := hended'.eq_resultOf hvalue'
    rw [hreorders.answersIn_eq, items_resultOf hclock, items_resultOf hclock, hlimit]
    -- The same items are collected, if in another order.
    have hperm : (concatenated env t s' (answersIn env.session s)).Perm
        (concatenated env t s (answersIn env.session s)) := hreorders.concatenated_perm
    refine ⟨?_, status_resultOf_of_reorders hreorders hclock, hreorders.messages_eq hclock,
      _, _, _, _, rfl, rfl, rfl, rfl, rfl, rfl, Item.sortByInstant_eq_iff, fun hdistinct => ?_⟩
    · show ((lost env s' _ .youtube + lost env s' _ .rumble : Nat) : Int) = _
      rw [hreorders.lost_eq, hreorders.lost_eq]
      rfl
    · have hwhole := Item.sortByInstant_eq_of_perm hperm hdistinct
      exact ⟨hwhole, congrArg _ hwhole⟩

def fourSources : Settings :=
  { Settings.unset with
    channels := ["UCa", "UCb"], playlists := ["PL"], rumbleChannels := ["r"], limit := some 2 }

/-- The named feed is not reachable; the others have an item each, of different times. -/
def scatteredPages (url : String) : Except Failure Feed.Facts :=
  if url = Source.feedUrl .youtube "UCa" false then .ok (feedOf "Noon" "2024-01-02T12:00:00+00:00")
  else if url = Source.feedUrl .youtube "UCb" false then
    .ok (feedOf "Evening" "2024-01-02T18:00:00+00:00")
  else if url = Source.feedUrl .rumble "r" false then .error (.unreachable url)
  else .ok (feedOf "Morning" "2024-01-02T09:00:00+00:00")

/-- The channels the other way round. -/
theorem swapped_channels_show_same_items :
    ∃ ended ended' result result',
      EndsWith (.steady default (.ofPages scatteredPages)) fourSources false false ended ∧
      EndsWith (.steady default (.ofPages scatteredPages))
        { fourSources with channels := ["UCb", "UCa"] } false false ended' ∧
      ended.value = .ok result ∧ ended'.value = .ok result' ∧ result'.failedCount = 1 ∧
      result'.items = result.items ∧ result'.items.map (·.title) = ["Evening", "Noon"] := by
  let env : Environment := .steady default (.ofPages scatteredPages)
  let t : Stamp := { (default : Stamp) with offset := some .utc }
  have hback : ∀ p, ∀ source ∈ fourSources.sources p,
      (env.session (Source.feedUrl p source fourSources.includeShorts)).comesBack = true := by
    intro p source hsource
    exact Fetch.comesBack_of_outcome (answeredBy_ofPages scatteredPages fourSources p source hsource)
  have hreorders : Settings.Reorders { fourSources with channels := ["UCb", "UCa"] } fourSources :=
    .intro (.swap "UCa" "UCb" []) (.refl _) (.refl _)
  obtain ⟨hresults, hsame⟩ :=
    order_of_settings_is_immaterial env fourSources _ t (fun _ _ _ => rfl) hreorders
  obtain ⟨⟨⟨ended, hended⟩, hresult⟩, ⟨ended', hended'⟩, hresult'⟩ := hresults hback
  obtain ⟨result, hvalue⟩ := hresult ended (.inl hended)
  obtain ⟨result', hvalue'⟩ := hresult' ended' (.inl hended')
  obtain ⟨hcount, -, -, collected, _, whole, _, hcollected, -, hwhole, -, hitems, -, -, hequal⟩ :=
    hsame ended ended' result result' (.inl hended) (.inl hended') hvalue hvalue'
  obtain ⟨noon, evening, morning, hthree, hmorning, hnoon, htitles⟩ :
      ∃ noon evening morning : Item,
        concatenated env t fourSources (answersIn env.session fourSources) =
          [noon, evening, morning] ∧
        morning.instant < noon.instant ∧ noon.instant < evening.instant ∧
        noon.title = "Noon" ∧ evening.title = "Evening" :=
    ⟨_, _, _, rfl, by decide, by decide, rfl, rfl⟩
  rw [hthree] at hcollected
  subst hcollected
  have hdistinct : ([noon, evening, morning].map Item.instant).Nodup := by
    simp
    omega
  have hsort : whole = [evening, noon, morning] := by
    have hkeep : morning.instant ≤ evening.instant ∧ morning.instant ≤ noon.instant := by omega
    have hmove : ¬ evening.instant ≤ noon.instant := by omega
    simp [hwhole, Item.sortByInstant, List.mergeSort, Item.notOlder, hkeep, hmove]
  obtain ⟨-, heq⟩ := hequal hdistinct
  refine ⟨ended, ended', result, result', hended, hended', hvalue, hvalue', ?_, heq, ?_⟩
  · rw [hcount, IsUncancelledEnd.eq_resultOf (.inl hended) hvalue]
    decide
  · rw [heq, hitems, hsort]
    show [evening.title, noon.title] = _
    rw [htitles.1, htitles.2]

end Cycle

end VideoWall
