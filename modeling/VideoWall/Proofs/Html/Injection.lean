import VideoWall.Proofs.Html.Outline
import VideoWall.Widget.Output

/-!
# No text changes the markup of a page

The pages of two walls are compared that show different texts. In the same style, with as many items or
none at all, they have the same markup: each text stands between tags or in the value of an attribute,
and is escaped. Main statement: `no_text_changes_markup`.
-/

namespace VideoWall

namespace Html

variable {x y z : Context} {cards cards' : List Card} {note : Piece}
  {layout : Card → List Piece}

/-! ## 1. Cards -/

theorem encloses_details {indent : String} (n : Nat)
    (hindent : indent = String.ofList (List.replicate n ' ')) (c : Card) :
    Encloses .betweenTags (c.details indent) .betweenTags := by
  -- Each line reads markup up to the next text.
  unfold Card.details
  refine .joined (.blank n hindent (.literal .inValue rfl ⟨rfl, rfl⟩ ?_))
  refine .text c.posted (by decide) (.literal .betweenTags rfl ⟨rfl, rfl⟩ ?_)
  refine .text c.age (by decide) (.joined (.joined (.literal .betweenTags rfl ⟨rfl, rfl⟩ ?_)))
  refine .blank n hindent (.literal .inValue rfl ⟨rfl, rfl⟩ ?_)
  refine .text c.authorUrl (by decide) (.literal .betweenTags rfl ⟨rfl, rfl⟩ ?_)
  exact .text c.author (by decide) (.whole rfl ⟨rfl, rfl⟩)

theorem encloses_contents (c : Card) : Encloses .betweenTags c.contents .betweenTags := by
  unfold Card.contents
  refine (Encloses.append ?_ (encloses_details 4 rfl c)).append
    (.whole rfl ⟨rfl, rfl⟩)
  refine .literal .inValue rfl ⟨rfl, rfl⟩ (.text c.thumbnailUrl (by decide) ?_)
  refine .joined (.joined (.literal .betweenTags rfl ⟨rfl, rfl⟩ (.literal .betweenTags rfl ⟨rfl, rfl⟩ ?_)))
  refine .literal .inValue rfl ⟨rfl, rfl⟩ (.text c.url (by decide) ?_)
  refine .literal .inValue rfl ⟨rfl, rfl⟩ (.text c.title (by decide) ?_)
  refine .literal .betweenTags rfl ⟨rfl, rfl⟩ (.text c.title (by decide) ?_)
  exact .whole rfl ⟨rfl, rfl⟩

theorem encloses_framed {indent : String} (n : Nat)
    (hindent : indent = String.ofList (List.replicate n ' ')) (c : Card) :
    Encloses .betweenTags (c.framed indent) .betweenTags := by
  -- The frame of a card stands around its contents, at a column of its own.
  have hopen : Encloses .betweenTags
      [.markup (indent ++ "<div class=\"card widget-content-frame thumbnail-parent\">\n")]
      .betweenTags := .joined (.blank n hindent (.whole rfl ⟨rfl, rfl⟩))
  have hclose : Encloses .betweenTags [.markup (indent ++ "</div>\n")] .betweenTags :=
    .joined (.blank n hindent (.whole rfl ⟨rfl, rfl⟩))
  exact (hopen.append (encloses_contents c)).append hclose

theorem encloses_row (c : Card) : Encloses .betweenTags c.row .betweenTags := by
  unfold Card.row
  refine (Encloses.append ?_ (encloses_details 12 rfl c)).append
    (.whole rfl ⟨rfl, rfl⟩)
  refine .joined (.literal .betweenTags rfl ⟨rfl, rfl⟩ ?_)
  refine .literal .inValue rfl ⟨rfl, rfl⟩ (.text c.thumbnailUrl (by decide) ?_)
  refine .joined (.literal .betweenTags rfl ⟨rfl, rfl⟩ ?_)
  refine .literal .inValue rfl ⟨rfl, rfl⟩ (.text c.url (by decide) ?_)
  refine .literal .betweenTags rfl ⟨rfl, rfl⟩ (.text c.title (by decide) ?_)
  exact .joined (.literal .betweenTags rfl ⟨rfl, rfl⟩ (.whole rfl ⟨rfl, rfl⟩))

theorem Encloses.flatMap (h : ∀ c, Encloses x (layout c) x) (cards : List Card) :
    Encloses x (cards.flatMap layout) x := by
  induction cards with
  | nil => exact .nil x
  | cons c cards ih => exact (h c).append ih

theorem encloses_cards (hnote : Encloses x [note] x) (hlayout : ∀ c, Encloses x (layout c) x)
    (cards : List Card) : Encloses x (if cards.isEmpty then [note] else cards.flatMap layout) x := by
  split
  · exact hnote
  · exact .flatMap hlayout cards

theorem shape_flatMap (hlayout : ∀ c c', shape (layout c) = shape (layout c'))
    (hlength : cards.length = cards'.length) :
    shape (cards.flatMap layout) = shape (cards'.flatMap layout) := by
  induction cards generalizing cards' with
  | nil =>
    obtain rfl := List.length_eq_zero_iff.mp hlength.symm
    rfl
  | cons c cards ih =>
    cases cards' with
    | nil => cases hlength
    | cons c' cards' =>
      rw [List.flatMap_cons, List.flatMap_cons, shape_append, shape_append, hlayout c c',
        ih (Nat.succ.inj hlength)]

theorem shape_cards (hlayout : ∀ c c', shape (layout c) = shape (layout c'))
    (hlength : cards.length = cards'.length) :
    shape (if cards.isEmpty then [note] else cards.flatMap layout) =
      shape (if cards'.isEmpty then [note] else cards'.flatMap layout) := by
  have hempty : cards.isEmpty = cards'.isEmpty := by
    rw [Bool.eq_iff_iff, List.isEmpty_iff_length_eq_zero, List.isEmpty_iff_length_eq_zero, hlength]
  rw [hempty]
  split
  · rfl
  · exact shape_flatMap hlayout hlength

/-! ## 2. Pages -/

theorem encloses_head (title : String) : Encloses .betweenTags (head title) .betweenTags := by
  unfold head
  refine .literal .betweenTags rfl ⟨rfl, rfl⟩ (.text title (by decide) ?_)
  exact .whole rfl ⟨rfl, rfl⟩

theorem encloses_page (style : Style) (f : Frame) (cards : List Card) :
    Encloses .betweenTags (page style f cards) .betweenTags := by
  cases style with
  | carousel =>
    unfold page carouselPage
    refine (((encloses_head f.title).append ?_).append
      (encloses_cards ?_ (encloses_framed 8 rfl) cards)).append ?_
    · exact .joined (.literal .betweenTags rfl ⟨rfl, rfl⟩ (.whole rfl ⟨rfl, rfl⟩))
    · exact .whole rfl ⟨rfl, rfl⟩
    · exact .whole rfl ⟨rfl, rfl⟩
  | grid =>
    unfold page gridPage
    refine (((encloses_head f.title).append ?_).append
      (encloses_cards ?_ (encloses_framed 6 rfl) cards)).append ?_
    · refine .joined (.literal .betweenTags rfl ⟨rfl, rfl⟩ (.literal .inValue rfl ⟨rfl, rfl⟩ ?_))
      exact .text _ (by decide) (.whole rfl ⟨rfl, rfl⟩)
    · exact .whole rfl ⟨rfl, rfl⟩
    · exact .whole rfl ⟨rfl, rfl⟩
  | verticalList =>
    unfold page listPage
    refine (((encloses_head f.title).append ?_).append
      (encloses_cards ?_ encloses_row cards)).append ?_
    · refine .joined (.literal .betweenTags rfl ⟨rfl, rfl⟩ (.literal .inValue rfl ⟨rfl, rfl⟩ ?_))
      exact .text _ (by decide) (.whole rfl ⟨rfl, rfl⟩)
    · exact .whole rfl ⟨rfl, rfl⟩
    · exact .whole rfl ⟨rfl, rfl⟩

theorem encloses_loadingPage (title : String) :
    Encloses .betweenTags (loadingPage title) .betweenTags := by
  refine (encloses_head title).append ?_
  refine .joined (.literal .betweenTags rfl ⟨rfl, rfl⟩ (.literal .betweenTags rfl ⟨rfl, rfl⟩ ?_))
  exact .text _ (by decide) (.whole rfl ⟨rfl, rfl⟩)

/-- The markup of a page is a matter of its style and of the number of its cards. -/
theorem shape_page (style : Style) (f f' : Frame) (hlength : cards.length = cards'.length) :
    shape (page style f cards) = shape (page style f' cards') := by
  cases style with
  | carousel =>
    simp only [page, carouselPage, shape_append]
    rw [shape_cards (fun _ _ => rfl) hlength]
    rfl
  | grid =>
    simp only [page, gridPage, shape_append]
    rw [shape_cards (fun _ _ => rfl) hlength]
    rfl
  | verticalList =>
    simp only [page, listPage, shape_append]
    rw [shape_cards (fun _ _ => rfl) hlength]
    rfl

/-! ## 3. The cards of items -/

theorem exists_card {now : Stamp} {i : Item} (hnow : now.isZoned = true)
    (hposted : ∀ t ∈ i.posted, t.isZoned = true) : ∃ card, Card.ofItem now i = .ok card := by
  unfold Card.ofItem
  cases hi : i.posted with
  | none => exact ⟨_, rfl⟩
  | some t =>
    have hdifference : now.difference t = .ok (now.instant - t.instant) :=
      if_pos (hnow.trans (hposted t hi).symm)
    rw [Card.ageText, Age.since, hdifference]
    exact ⟨_, rfl⟩

theorem exists_cards {now : Stamp} (hnow : now.isZoned = true) {items : List Item}
    (hitems : ∀ i ∈ items, ∀ t ∈ i.posted, t.isZoned = true) :
    ∃ cards, items.mapM (Card.ofItem now) = .ok cards ∧ cards.length = items.length := by
  induction items with
  | nil => exact ⟨[], rfl, rfl⟩
  | cons i items ih =>
    obtain ⟨hi, hrest⟩ := List.forall_mem_cons.mp hitems
    obtain ⟨card, hcard⟩ := exists_card hnow hi
    obtain ⟨cards, hcards, hlength⟩ := ih hrest
    refine ⟨card :: cards, ?_, congrArg Nat.succ hlength⟩
    rw [List.mapM_cons, hcard, hcards]
    rfl

end Html

namespace Widget.State

open Html

variable {now now' : Stamp} {s s' : State}

def IsZoned (s : State) : Prop :=
  ∀ i ∈ s.items, ∀ t ∈ i.posted, t.isZoned = true

/-- Two walls with content, or two without, have pages of the same markup. -/
theorem exists_pieces (style : String) (frame frame' : Frame)
    (hcontent : s'.contentAvailable = s.contentAvailable) (hlength : s'.items.length = s.items.length)
    (hnow : now.isZoned = true) (hnow' : now'.isZoned = true) (hs : s.IsZoned) (hs' : s'.IsZoned) :
    ∃ ps ps', s.pieces now ⟨style, frame⟩ = .ok ps ∧ s'.pieces now' ⟨style, frame'⟩ = .ok ps' ∧
      Encloses .betweenTags ps .betweenTags ∧ Encloses .betweenTags ps' .betweenTags ∧
      shape ps' = shape ps := by
  unfold pieces
  rw [hcontent]
  cases s.contentAvailable with
  | false =>
    -- The placeholder shows no item.
    exact ⟨_, _, rfl, rfl, encloses_loadingPage frame.title, encloses_loadingPage frame'.title, rfl⟩
  | true =>
    obtain ⟨cards, hcards, hcount⟩ := exists_cards hnow hs
    obtain ⟨cards', hcards', hcount'⟩ := exists_cards hnow' hs'
    rw [hcards, hcards']
    refine ⟨_, _, rfl, rfl, encloses_page _ frame cards, encloses_page _ frame' cards', ?_⟩
    exact shape_page _ _ _ (hcount'.trans (hlength.trans hcount.symm))

/-- Whatever a wall shows, in any style: the markup of its page depends on the style, on whether there is
content and on the number of items only. Titles, addresses, names, timestamps and folds, of the items and
of the wall, add no character that could begin or end a tag or an attribute, and every ampersand begins a
reference. Tags and attributes are the same, up to the values of these. -/
theorem no_text_changes_markup (style : String) (now now' : Stamp) (frame frame' : Frame) (s s' : State)
    (hcontent : s'.contentAvailable = s.contentAvailable) (hlength : s'.items.length = s.items.length)
    (hnow : now.isZoned = true) (hnow' : now'.isZoned = true) (hs : s.IsZoned) (hs' : s'.IsZoned) :
    ∃ page page', (s.html now ⟨style, frame⟩).value = .ok page ∧
      (s'.html now' ⟨style, frame'⟩).value = .ok page' ∧
      page'.toList.filter isDelimiter = page.toList.filter isDelimiter ∧
      RefersOnly page.toList ∧ RefersOnly page'.toList ∧
      outline page'.toList = outline page.toList := by
  obtain ⟨ps, ps', hps, hps', hencloses, hencloses', hshape⟩ :=
    exists_pieces style frame frame' hcontent hlength hnow hnow' hs hs'
  have hhtml : (s.html now ⟨style, frame⟩).value = .ok (render ps) := congrArg (Except.map render) hps
  have hhtml' : (s'.html now' ⟨style, frame'⟩).value = .ok (render ps') :=
    congrArg (Except.map render) hps'
  refine ⟨_, _, hhtml, hhtml', ?_⟩
  unfold render
  rw [String.toList_ofList, String.toList_ofList, filter_charsOf, filter_charsOf, hshape]
  exact ⟨rfl, hencloses.refersOnly_charsOf, hencloses'.refersOnly_charsOf, hencloses.outlineFrom_eq hshape⟩

def showing (i : Item) : State :=
  { initial with contentAvailable := true, items := [i] }

def plainItem : Item where
  thumbnailUrl := "https://i.test/1.jpg"
  title := "Noon"
  url := "https://v.test/1"
  author := "A"
  authorUrl := "https://v.test/a"
  posted := some { (default : Stamp) with offset := some .utc }

def hostileItem : Item :=
  { plainItem with
    thumbnailUrl := "\" onerror=\"alert(1)"
    title := "</a><script>alert('1')</script>"
    url := "&quot;><b>" }

theorem isZoned_showing {i : Item} (h : ∀ t ∈ i.posted, t.isZoned = true) : (showing i).IsZoned := by
  intro j hj
  rw [List.mem_singleton.mp hj]
  exact h

/-- A script in a title and a quote in an address stay texts. -/
theorem hostile_item_changes_no_markup :
    ∃ page page',
      ((showing plainItem).html { (default : Stamp) with offset := some .utc }
        ⟨"grid-cards", "Videos", 7, 4⟩).value = .ok page ∧
      ((showing hostileItem).html { (default : Stamp) with offset := some .utc }
        ⟨"grid-cards", "<h1>", -1, 100⟩).value = .ok page' ∧
      page'.toList.filter isDelimiter = page.toList.filter isDelimiter ∧ RefersOnly page'.toList ∧
      outline page'.toList = outline page.toList := by
  have hzoned : ∀ t ∈ plainItem.posted, t.isZoned = true := by
    intro t ht
    obtain rfl := Option.some.inj ht
    rfl
  obtain ⟨page, page', hpage, hpage', hfilter, -, hrefers, houtline⟩ :=
    no_text_changes_markup "grid-cards" { (default : Stamp) with offset := some .utc }
      { (default : Stamp) with offset := some .utc } ⟨"Videos", 7, 4⟩ ⟨"<h1>", -1, 100⟩
      (showing plainItem) (showing hostileItem) rfl rfl rfl rfl (isZoned_showing hzoned)
      (isZoned_showing hzoned)
  exact ⟨page, page', hpage, hpage', hfilter, hrefers, houtline⟩

end Widget.State

end VideoWall
