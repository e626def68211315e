import VideoWall.Proofs.Cycle.Merging
import VideoWall.Proofs.Cycle.Returning
import VideoWall.Proofs.Item.Traced

/-!
# A failure costs its own items

Two cycles are compared that meet the same, but for one feed that gives a document in the first and
fails in the second. The second one shows what the first one does without the items of this feed, and at
the places that become free the next items of the other feeds. Main statement:
`one_failure_costs_its_own_items`.
-/

namespace VideoWall.Cycle

open Fetch (Answers failures)

variable {env env' : Environment} {s : Settings} {t : Stamp} {answers : Provider → Answers}
  {p : Provider} {source u : String}

/-! ## 1. Items with the addresses of their feeds -/

/-- The items of all sources with the addresses of their feeds, one source behind the other. -/
def traced (env : Environment) (t : Stamp) (s : Settings) (answers : Provider → Answers) :
    List Traced :=
  Provider.all.flatMap fun p => (s.sources p).flatMap fun source =>
    (itemsOfSource env t s answers p source).map fun i =>
      ⟨Source.feedUrl p source s.includeShorts, i⟩

theorem map_traced : (traced env t s answers).map Traced.item = concatenated env t s answers := by
  rw [← flatMap_sources]
  simp only [traced, List.map_flatMap, List.map_map, Function.comp_def, List.map_id']

theorem items_resultOf_traced (hclock : ∀ p i j, env.clock.reading p i j = t) :
    (resultOf env s answers).items = ((Traced.sort (traced env t s answers)).take
      (Settings.effectiveLimit s.limit)).map Traced.item := by
  rw [List.map_take, Traced.map_sort, map_traced]
  exact items_resultOf hclock

/-! ## 2. Two environments -/

/-- Whether two environments differ only in the answer of one address, where the first gives a document
to all sources that have their feed there, and the second fails. -/
structure FailsOnlyAt (s : Settings) (u : String) (env env' : Environment) : Prop where
  clock : env'.clock = env.clock
  refusal : env'.refusal = env.refusal
  same : ∀ url, url ≠ u → env'.session url = env.session url
  gives : ∀ p, ∀ source ∈ s.sources p, Source.feedUrl p source s.includeShorts = u →
    ∃ d, Fetch.outcome p env.session u = .done (.ok d)
  fails : ∀ p, ∃ f, Fetch.outcome p env'.session u = .done (.error f)

theorem FailsOnlyAt.comesBack (h : FailsOnlyAt s u env env')
    (hback : ∀ p, ∀ source ∈ s.sources p,
      (env.session (Source.feedUrl p source s.includeShorts)).comesBack = true) :
    ∀ p, ∀ source ∈ s.sources p,
      (env'.session (Source.feedUrl p source s.includeShorts)).comesBack = true := by
  intro p source hsource
  by_cases hu : Source.feedUrl p source s.includeShorts = u
  · obtain ⟨f, hf⟩ := h.fails p
    rw [hu]
    exact Fetch.comesBack_of_outcome hf
  · rw [h.same _ hu]
    exact hback p source hsource

theorem FailsOnlyAt.answers_eq (h : FailsOnlyAt s u env env')
    (hu : Source.feedUrl p source s.includeShorts ≠ u) :
    answersIn env'.session s p source = answersIn env.session s p source := by
  unfold answersIn Fetch.outcome
  dsimp only
  rw [h.same _ hu]

theorem FailsOnlyAt.answers_fail (h : FailsOnlyAt s u env env')
    (hu : Source.feedUrl p source s.includeShorts = u) :
    ∃ f, answersIn env'.session s p source = .error f := by
  obtain ⟨f, hf⟩ := h.fails p
  refine ⟨f, ?_⟩
  unfold answersIn
  dsimp only
  rw [hu, hf]
  rfl

theorem FailsOnlyAt.answers_give (h : FailsOnlyAt s u env env') (hsource : source ∈ s.sources p)
    (hu : Source.feedUrl p source s.includeShorts = u) :
    ∃ d, answersIn env.session s p source = .ok d := by
  obtain ⟨d, hd⟩ := h.gives p source hsource hu
  refine ⟨d, ?_⟩
  unfold answersIn
  dsimp only
  rw [hu, hd]
  rfl

/-! ## 3. What the failure costs -/

theorem FailsOnlyAt.isStartable_iff (h : FailsOnlyAt s u env env') (o : Fetch.Order) :
    o.IsStartable env' ↔ o.IsStartable env := by
  unfold Fetch.Order.IsStartable
  rw [h.refusal]

theorem FailsOnlyAt.itemsOfSource_eq (h : FailsOnlyAt s u env env') :
    itemsOfSource env' t s (answersIn env'.session s) p source =
      if Source.feedUrl p source s.includeShorts = u then []
      else itemsOfSource env t s (answersIn env.session s) p source := by
  unfold itemsOfSource
  simp only [h.isStartable_iff]
  by_cases hu : Source.feedUrl p source s.includeShorts = u
  · obtain ⟨f, hf⟩ := h.answers_fail hu
    rw [if_pos hu, hf, ite_self]
  · rw [if_neg hu, h.answers_eq hu]

theorem FailsOnlyAt.traced_eq (h : FailsOnlyAt s u env env') :
    traced env' t s (answersIn env'.session s) =
      (traced env t s (answersIn env.session s)).filter (·.url != u) := by
  unfold traced
  simp only [List.filter_flatMap, List.filter_map, Function.comp_def]
  congr 1
  funext p
  congr 1
  funext source
  -- All items of a source come from one feed, so all of them stay or none.
  rw [h.itemsOfSource_eq]
  by_cases hu : Source.feedUrl p source s.includeShorts = u
  · simp [hu]
  · have hstays : (Source.feedUrl p source s.includeShorts != u) = true := bne_iff_ne.mpr hu
    rw [if_neg hu, List.filter_eq_self.mpr fun _ _ => hstays]

/-- Of the sources that have their feed at the address, none fails in the first environment and all fail
in the second one. -/
theorem FailsOnlyAt.length_failures (h : FailsOnlyAt s u env env') {sources : List String}
    (hsources : ∀ source ∈ sources, source ∈ s.sources p) :
    (failures (answersIn env'.session s p) sources).length =
      (failures (answersIn env.session s p) sources).length +
        (sources.map fun source => Source.feedUrl p source s.includeShorts).count u := by
  induction sources with
  | nil => rfl
  | cons source rest ih =>
    obtain ⟨hsource, hrest⟩ := List.forall_mem_cons.mp hsources
    rw [List.map_cons]
    by_cases hu : Source.feedUrl p source s.includeShorts = u
    · obtain ⟨f, hf⟩ := h.answers_fail hu
      obtain ⟨d, hd⟩ := h.answers_give hsource hu
      rw [Fetch.failures_cons_error hf, Fetch.failures_cons_ok hd, List.length_cons, ih hrest, hu,
        List.count_cons_self, Nat.add_assoc]
    · rw [List.count_cons_of_ne hu]
      have hsame := h.answers_eq hu
      cases ha : answersIn env.session s p source with
      | ok d => rw [Fetch.failures_cons_ok ha, Fetch.failures_cons_ok (hsame.trans ha), ih hrest]
      | error f =>
        rw [Fetch.failures_cons_error ha, Fetch.failures_cons_error (hsame.trans ha),
          List.length_cons, List.length_cons, ih hrest, Nat.add_right_comm]

def feedUrls (s : Settings) : List String :=
  Provider.all.flatMap fun p => (order s p).urls

theorem FailsOnlyAt.lost_eq (h : FailsOnlyAt s u env env') (hstart : (order s p).IsStartable env) :
    lost env' s (answersIn env'.session s) p =
      lost env s (answersIn env.session s) p + (order s p).urls.count u := by
  rw [lost, lost, if_pos hstart, if_pos ((h.isStartable_iff _).mpr hstart)]
  exact h.length_failures fun _ hsource => hsource

theorem FailsOnlyAt.failedCount_eq (h : FailsOnlyAt s u env env')
    (hstart : ∀ p, (order s p).IsStartable env) :
    (resultOf env' s (answersIn env'.session s)).failedCount =
      (resultOf env s (answersIn env.session s)).failedCount + ((feedUrls s).count u : Nat) := by
  have hcount : (feedUrls s).count u =
      (order s .youtube).urls.count u + (order s .rumble).urls.count u := by
    show ((order s .youtube).urls ++ ((order s .rumble).urls ++ [])).count u = _
    rw [List.append_nil, List.count_append]
  show ((lost env' s _ .youtube + lost env' s _ .rumble : Nat) : Int) =
    (lost env s _ .youtube + lost env s _ .rumble : Nat) + _
  rw [h.lost_eq (hstart .youtube), h.lost_eq (hstart .rumble), hcount]
  omega

/-- The items of the second environment: those of the first one that do not come from the feed, and then
as many of those that it cuts off as there are places of the feed's own items. -/
theorem FailsOnlyAt.items_eq (h : FailsOnlyAt s u env env') (n : Nat) {newest : List Traced}
    (hnewest : newest = Traced.sort (traced env t s (answersIn env.session s))) :
    ((Traced.sort (traced env' t s (answersIn env'.session s))).take n) =
      (newest.take n).filter (·.url != u) ++
        ((newest.drop n).filter (·.url != u)).take ((newest.take n).countP (·.url == u)) := by
  rw [h.traced_eq, ← Traced.filter_sort, ← hnewest, take_filter_eq]
  simp only [bne, Bool.not_not]

/-! ## 4. Both cycles -/

/-- Whatever feed fails, and whichever provider it belongs to, it costs its own items only: those that
come from other feeds are shown as before and in the same order, and behind them, at the places that
become free, the next ones of those that the limit has cut off. The failures that are counted grow by the
number of sources that have their feed there. -/
theorem one_failure_costs_its_own_items (env env' : Environment) (s : Settings) (u : String) (t : Stamp)
    (hclock : ∀ p i j, env.clock.reading p i j = t) (hfails : FailsOnlyAt s u env env') :
    ((∀ p, ∀ source ∈ s.sources p,
        (env.session (Source.feedUrl p source s.includeShorts)).comesBack = true) →
      HasResults env s ∧ HasResults env' s) ∧
    ∀ ended ended' result result', IsUncancelledEnd env s ended → IsUncancelledEnd env' s ended' →
      ended.value = .ok result → ended'.value = .ok result' →
      ∃ newest shown cut, newest = Traced.sort (traced env t s (answersIn env.session s)) ∧
        shown = newest.take (Settings.effectiveLimit s.limit) ∧
        cut = newest.drop (Settings.effectiveLimit s.limit) ∧
        result.items = shown.map Traced.item ∧
        result'.items = (shown.filter (·.url != u)).map Traced.item ++
          ((cut.filter (·.url != u)).take (shown.countP (·.url == u))).map Traced.item ∧
        ((∀ p, (order s p).IsStartable env) →
          result'.failedCount = result.failedCount + ((feedUrls s).count u : Nat)) := by
  have hclock' : ∀ p i j, env'.clock.reading p i j = t := by
    rw [hfails.clock]
    exact hclock
  refine ⟨fun hback => ?_, ?_⟩
  · exact ⟨hasResults_of_comesBack hback, hasResults_of_comesBack (hfails.comesBack hback)⟩
  · intro ended ended' result result' hended hended' hvalue hvalue'
    obtain rfl := hended.eq_resultOf hvalue
    obtain rfl := hended'.eq_resultOf hvalue'
    refine ⟨_, _, _, rfl, rfl, rfl, items_resultOf_traced hclock, ?_, hfails.failedCount_eq⟩
    rw [items_resultOf_traced hclock', hfails.items_eq _ rfl, List.map_append]

def channelUrl : String := Source.feedUrl .youtube "UCa" false

def pagesWithoutChannel (url : String) : Except Failure Feed.Facts :=
  if url = channelUrl then .error (.unreachable url) else tiedPages url

theorem failsOnlyAt_channel : FailsOnlyAt roomForTwo channelUrl (.steady default (.ofPages tiedPages))
    (.steady default (.ofPages pagesWithoutChannel)) where
  clock := rfl
  refusal := rfl
  same url hu := by
    show Session.ofPages pagesWithoutChannel url = Session.ofPages tiedPages url
    rw [Session.ofPages, Session.ofPages, pagesWithoutChannel, if_neg hu]
  gives p source _ _ := by
    cases p
    · exact ⟨_, rfl⟩
    · exact ⟨_, rfl⟩
  fails p := by
    cases p
    · exact ⟨_, rfl⟩
    · exact ⟨_, rfl⟩

/-- The channel had the first of two places; the playlist's item moves up. -/
theorem unreachable_channel_costs_its_own_item :
    ∃ ended ended' result result',
      EndsWith (.steady default (.ofPages tiedPages)) roomForTwo false false ended ∧
      EndsWith (.steady default (.ofPages pagesWithoutChannel)) roomForTwo false false ended' ∧
      ended.value = .ok result ∧ ended'.value = .ok result' ∧
      result.items.map (·.title) = ["Noon", "Abroad"] ∧
      result'.items.map (·.title) = ["Abroad", "Morning"] ∧
      result'.failedCount = result.failedCount + 1 := by
  let env : Environment := .steady default (.ofPages tiedPages)
  let t : Stamp := { (default : Stamp) with offset := some .utc }
  have hback : ∀ p, ∀ source ∈ roomForTwo.sources p,
      (env.session (Source.feedUrl p source roomForTwo.includeShorts)).comesBack = true := by
    intro p source hsource
    exact Fetch.comesBack_of_outcome (answeredBy_ofPages tiedPages roomForTwo p source hsource)
  obtain ⟨hresults, hevery⟩ := one_failure_costs_its_own_items env _ roomForTwo channelUrl t
    (fun _ _ _ => rfl) failsOnlyAt_channel
  obtain ⟨⟨⟨ended, hended⟩, hresult⟩, ⟨ended', hended'⟩, hresult'⟩ := hresults hback
  obtain ⟨result, hvalue⟩ := hresult ended (.inl hended)
  obtain ⟨result', hvalue'⟩ := hresult' ended' (.inl hended')
  obtain ⟨newest, shown, cut, hnewest, hshown, hcut, hitems, hitems', hcount⟩ :=
    hevery ended ended' result result' (.inl hended) (.inl hended') hvalue hvalue'
  obtain ⟨noon, morning, abroad, htraced, htie, holder, htitles⟩ :
      ∃ noon morning abroad : Traced,
        traced env t roomForTwo (answersIn env.session roomForTwo) = [noon, morning, abroad] ∧
        noon.item.instant = abroad.item.instant ∧ morning.item.instant < noon.item.instant ∧
        (noon.item.title = "Noon" ∧ abroad.item.title = "Abroad" ∧ morning.item.title = "Morning") ∧
        noon.url = channelUrl ∧ morning.url ≠ channelUrl ∧ abroad.url ≠ channelUrl :=
    ⟨_, _, _, rfl, by decide, by decide, ⟨rfl, rfl, rfl⟩, rfl, by decide, by decide⟩
  have hsort : Traced.sort [noon, morning, abroad] = [noon, abroad, morning] := by
    have hkeep : abroad.item.instant ≤ noon.item.instant ∧
        morning.item.instant ≤ abroad.item.instant := by omega
    have hmove : ¬ noon.item.instant ≤ morning.item.instant ∧
        ¬ abroad.item.instant ≤ morning.item.instant := by omega
    simp [Traced.sort, List.mergeSort, Item.notOlder, hkeep, hmove, Int.le_of_lt holder]
  obtain ⟨⟨hnoon, habroad, hmorning⟩, hchannel, hplaylist, hnamed⟩ := htitles
  rw [hnewest, htraced, hsort] at hshown hcut
  obtain rfl : shown = [noon, abroad] := hshown
  obtain rfl : cut = [morning] := hcut
  refine ⟨ended, ended', result, result', hended, hended', hvalue, hvalue', ?_, ?_, ?_⟩
  · rw [hitems]
    simp [hnoon, habroad]
  · rw [hitems']
    simp [hchannel, hplaylist, hnamed, habroad, hmorning]
  · rw [hcount fun p => by cases p <;> decide]
    rfl

end VideoWall.Cycle
