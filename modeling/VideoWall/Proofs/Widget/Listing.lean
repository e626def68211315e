import VideoWall.Proofs.Html.Injection
import VideoWall.Proofs.Html.Reading
import VideoWall.Proofs.Item.NewestFirst
import VideoWall.Proofs.Json.RoundTrip
import VideoWall.Proofs.Time.IsoText
import VideoWall.Widget.Listing

/-!
# Pages and documents show the same list

In every style the page of a wall with content shows its items, in their order and with the same six
fields as its JSON document; so two walls with the same page have the same items. Main statement:
`every_output_lists_same_items`.
-/

namespace VideoWall

namespace Html

variable {now : Stamp} {i j : Item} {items : List Item}

/-! ## 1. Items and their cards -/

theorem ofCard_of_ofItem {c : Card} (h : Card.ofItem now i = .ok c) : Shown.ofCard c = Shown.ofItem i := by
  unfold Card.ofItem at h
  cases hage : Card.ageText now i.posted with
  | error e =>
    rw [hage] at h
    cases h
  | ok age =>
    rw [hage] at h
    cases h
    rfl

theorem map_ofCard {cards : List Card} (h : items.mapM (Card.ofItem now) = .ok cards) :
    cards.map Shown.ofCard = items.map Shown.ofItem := by
  induction items generalizing cards with
  | nil =>
    cases h
    rfl
  | cons i items ih =>
    rw [List.mapM_cons] at h
    cases hcard : Card.ofItem now i with
    | error e =>
      rw [hcard] at h
      cases h
    | ok c =>
      cases hcards : items.mapM (Card.ofItem now) with
      | error e =>
        rw [hcard, hcards] at h
        cases h
      | ok cs =>
        rw [hcard, hcards] at h
        cases h
        rw [List.map_cons, List.map_cons, ofCard_of_ofItem hcard, ih hcards]

theorem postedText_injective {t u : Option Stamp} (h : Card.postedText t = Card.postedText u) : t = u := by
  have hne : ∀ v : Stamp, v.isoText ≠ "" := by
    intro v hv
    obtain ⟨c, rest, hchars, -⟩ := Stamp.isoText_head v
    have hempty : v.charsWith 'T' = [] := String.ofList_injective hv
    rw [hchars] at hempty
    cases hempty
  cases t with
  | none =>
    cases u with
    | none => rfl
    | some u => exact absurd h.symm (hne u)
  | some t =>
    cases u with
    | none => exact absurd h (hne t)
    | some u => rw [Stamp.isoText_injective h]

theorem ofItem_injective (h : Shown.ofItem i = Shown.ofItem j) : i = j := by
  simp only [Shown.ofItem, Shown.mk.injEq, String.toList_inj] at h
  obtain ⟨hthumbnail, hurl, htitle, hposted, hauthorUrl, hauthor⟩ := h
  have hposted := postedText_injective hposted
  cases i
  cases j
  simp_all

end Html

namespace Widget

open Html

variable {i : Item} {items : List Item} {v : JsonValue}

/-! ## 2. Items and their values -/

theorem ofJson?_itemJson (h : State.itemJson i = some v) : Shown.ofJson? v = some (Shown.ofItem i) := by
  obtain ⟨t, ht, rfl⟩ := Option.map_eq_some_iff.mp h
  rw [Shown.ofItem, ht]
  rfl

theorem mapM_ofJson? {videos : List JsonValue} (h : items.mapM State.itemJson = some videos) :
    videos.mapM Shown.ofJson? = some (items.map Shown.ofItem) := by
  induction items generalizing videos with
  | nil =>
    cases h
    rfl
  | cons i items ih =>
    rw [List.mapM_cons] at h
    obtain ⟨v, hv, h⟩ := Option.bind_eq_some_iff.mp h
    obtain ⟨vs, hvs, h⟩ := Option.bind_eq_some_iff.mp h
    cases h
    rw [List.mapM_cons, ofJson?_itemJson hv, ih hvs]
    rfl

theorem exists_itemJson (hitems : ∀ i ∈ items, i.kind = .zoned) :
    ∃ videos, items.mapM State.itemJson = some videos := by
  induction items with
  | nil => exact ⟨[], rfl⟩
  | cons i items ih =>
    obtain ⟨hi, hrest⟩ := List.forall_mem_cons.mp hitems
    obtain ⟨t, ht, -⟩ := Item.posted_of_zoned hi
    obtain ⟨videos, hvideos⟩ := ih hrest
    rw [List.mapM_cons, State.itemJson, ht, hvideos]
    exact ⟨_, rfl⟩

namespace State

variable {now : Stamp} {o : PageOptions} {s : State}

/-- Whether every item of a wall has a timestamp, and one with an offset. -/
def IsDated (s : State) : Prop :=
  ∀ i ∈ s.items, i.kind = .zoned

theorem IsDated.isZoned (hs : s.IsDated) : s.IsZoned := by
  intro i hi t ht
  obtain ⟨u, hu, hzoned⟩ := Item.posted_of_zoned (hs i hi)
  obtain rfl : u = t := Option.some.inj (hu.symm.trans ht)
  exact hzoned

theorem listed?_json (hs : s.IsDated) :
    ∃ text, s.json = some text ∧ listed? text = some (s.items.map Shown.ofItem) := by
  obtain ⟨videos, hvideos⟩ := exists_itemJson hs
  rw [json, jsonValue, hvideos]
  refine ⟨_, rfl, ?_⟩
  rw [listed?, JsonValue.ofText?_toText, Option.bind_some, ← mapM_ofJson? hvideos]
  rfl

theorem exists_html (hnow : now.isZoned = true) (hs : s.IsDated) : ∃ page, (s.html now o).value = .ok page := by
  show ∃ page, (s.pieces now o).map render = .ok page
  obtain ⟨cards, hcards, -⟩ := exists_cards hnow hs.isZoned
  unfold pieces
  cases s.contentAvailable with
  | false => exact ⟨_, rfl⟩
  | true =>
    rw [hcards]
    exact ⟨_, rfl⟩

theorem shown_html {page : String} (hcontent : s.contentAvailable = true)
    (hpage : (s.html now o).value = .ok page) :
    Html.shown page.toList = s.items.map Shown.ofItem ∧ (saysEmpty page.toList = true ↔ s.items = []) := by
  have hpieces : (s.pieces now o).map render = .ok page := hpage
  rw [pieces, hcontent] at hpieces
  cases hcards : s.items.mapM (Card.ofItem now) with
  | error e =>
    rw [hcards] at hpieces
    cases hpieces
  | ok cards =>
    rw [hcards] at hpieces
    cases hpieces
    have hmap := map_ofCard hcards
    have hempty : cards = [] ↔ s.items = [] := by
      rw [← List.map_eq_nil_iff (f := Shown.ofCard), hmap, List.map_eq_nil_iff]
    rw [render, String.toList_ofList, shown_page, saysEmpty_page]
    exact ⟨hmap, hempty⟩

/-- A wall with content whose timestamps carry an offset has a page in every style and a JSON document.
The cards that are read off the page, references undone, are the videos of the document, and both are the
items of the wall in their order; the page says that there are no videos if and only if there are none.
Any wall with content that has this page, in whatever style and at whatever time, has the same items. -/
theorem every_output_lists_same_items (style : String) (frame : Frame) (now : Stamp) (s : State)
    (hcontent : s.contentAvailable = true) (hnow : now.isZoned = true) (hs : s.IsDated) :
    ∃ page text, (s.html now ⟨style, frame⟩).value = .ok page ∧ s.json = some text ∧
      listed? text = some (Html.shown page.toList) ∧ Html.shown page.toList = s.items.map Shown.ofItem ∧
      (saysEmpty page.toList = true ↔ Html.shown page.toList = []) ∧
      ∀ (style' : String) (frame' : Frame) (now' : Stamp) (s' : State), s'.contentAvailable = true →
        (s'.html now' ⟨style', frame'⟩).value = .ok page → s'.items = s.items := by
  obtain ⟨page, hpage⟩ : ∃ page, (s.html now ⟨style, frame⟩).value = .ok page := exists_html hnow hs
  obtain ⟨text, hjson, hlisted⟩ := listed?_json hs
  obtain ⟨hshown, hempty⟩ := shown_html hcontent hpage
  refine ⟨page, text, hpage, hjson, by rw [hlisted, hshown], hshown, ?_, ?_⟩
  · rw [hempty, hshown, List.map_eq_nil_iff]
  · intro style' frame' now' s' hcontent' hpage'
    obtain ⟨hshown', -⟩ := shown_html hcontent' hpage'
    rw [hshown] at hshown'
    exact (List.map_inj_right fun i j h => ofItem_injective h).mp hshown'.symm

def earlyNow : Stamp := { (default : Stamp) with offset := some .utc }

def twoItems : State :=
  { showing hostileItem with items := [hostileItem, plainItem] }

/-- The script in a title is read as a title, on the page as in the document. -/
theorem hostile_items_are_listed :
    twoItems.contentAvailable = true ∧ earlyNow.isZoned = true ∧ twoItems.IsDated ∧
    ∃ page text, (twoItems.html earlyNow ⟨"vertical-list", "\"", -1, 0⟩).value = .ok page ∧
      twoItems.json = some text ∧ listed? text = some (Html.shown page.toList) ∧
      Html.shown page.toList = [Shown.ofItem hostileItem, Shown.ofItem plainItem] ∧
      saysEmpty page.toList = false := by
  have hdated : twoItems.IsDated := by
    intro i hi
    simp only [twoItems, List.mem_cons, List.not_mem_nil, or_false] at hi
    rcases hi with rfl | rfl
    · rfl
    · rfl
  obtain ⟨page, text, hpage, hjson, hlisted, hshown, hempty, -⟩ :=
    every_output_lists_same_items "vertical-list" ⟨"\"", -1, 0⟩ earlyNow twoItems rfl rfl hdated
  refine ⟨rfl, rfl, hdated, page, text, hpage, hjson, hlisted, hshown, ?_⟩
  rw [Bool.eq_false_iff, Ne, hempty, hshown]
  exact List.cons_ne_nil _ _

end State

end Widget

end VideoWall
