import VideoWall.Html.Page
import VideoWall.Html.Reader
import VideoWall.Proofs.Html.Outline

/-!
# What is read off a page

A page of cards is read piece by piece: markup by its characters, and text as what it was before it was
escaped, since nothing in an escaped text ends the place where it stands. Main statements: `reads_page` and
`shown_page`.
-/

namespace VideoWall.Html

set_option maxRecDepth 2048

variable {w x y z : Place} {cs : List Char} {ps qs rs : List Piece} {ms ms' : List Mark} {m m' : String}

/-! ## 1. Places -/

def Place.after (x : Place) (cs : List Char) : Place :=
  cs.foldl next x

def Place.takesText : Place → Bool
  | betweenTags | inText _ _ | inValue _ _ _ => true
  | _ => false

def Place.holding : Place → List Char → Place
  | inText caption seen, cs => inText caption (seen ++ cs)
  | inValue t key seen, cs => inValue t key (seen ++ cs)
  | x, _ => x

theorem marksFrom_append (x : Place) (cs ds : List Char) :
    marksFrom x (cs ++ ds) = marksFrom x cs ++ marksFrom (x.after cs) ds := by
  induction cs generalizing x with
  | nil => rfl
  | cons c cs ih =>
    rw [List.cons_append, marksFrom, marksFrom, ih, List.append_assoc]
    rfl

theorem next_of_not_isDelimiter {c : Char} (hx : x.takesText = true) (hc : isDelimiter c = false) :
    x.next c = x.holding [c] ∧ x.mark? c = none := by
  simp only [isDelimiter, Bool.or_eq_false_iff] at hc
  obtain ⟨⟨⟨hlt, -⟩, hquot⟩, -⟩ := hc
  cases x with
  | betweenTags => simp [Place.next, Place.mark?, Place.holding, hlt]
  | inText caption seen => simp [Place.next, Place.mark?, Place.holding, hlt]
  | inValue t key seen => simp [Place.next, Place.mark?, Place.holding, hquot]
  | inName seen => cases hx
  | inTag t => cases hx
  | inAttribute t seen => cases hx

theorem takesText_holding (hx : x.takesText = true) (cs : List Char) : (x.holding cs).takesText = true := by
  cases x <;> exact hx

theorem holding_holding (x : Place) (cs ds : List Char) : (x.holding cs).holding ds = x.holding (cs ++ ds) := by
  cases x <;> simp [Place.holding]

theorem after_of_no_delimiters (hx : x.takesText = true) (hcs : ∀ c ∈ cs, isDelimiter c = false) :
    x.after cs = x.holding cs ∧ marksFrom x cs = [] := by
  induction cs generalizing x with
  | nil => cases x <;> simp [Place.after, Place.holding, marksFrom]
  | cons c cs ih =>
    obtain ⟨hc, hrest⟩ := List.forall_mem_cons.mp hcs
    obtain ⟨hnext, hmark⟩ := next_of_not_isDelimiter hx hc
    obtain ⟨hafter, hmarks⟩ := ih (takesText_holding hx [c]) hrest
    rw [marksFrom, hmark, hnext, hmarks]
    refine ⟨?_, rfl⟩
    rw [Place.after, List.foldl_cons, hnext, ← Place.after, hafter, holding_holding]
    rfl

/-! ## 2. Pieces -/

/-- Whether pieces take a reader from one place to another and show marks on the way. -/
structure Reads (x : Place) (ps : List Piece) (ms : List Mark) (y : Place) : Prop where
  marks : marksFrom x (charsOf ps) = ms
  place : x.after (charsOf ps) = y

namespace Reads

theorem nil (x : Place) : Reads x [] [] x := ⟨rfl, rfl⟩

theorem append (hps : Reads x ps ms y) (hqs : Reads y qs ms' z) : Reads x (ps ++ qs) (ms ++ ms') z := by
  have hchars : charsOf (ps ++ qs) = charsOf ps ++ charsOf qs := List.flatMap_append
  refine ⟨?_, ?_⟩
  · rw [hchars, marksFrom_append, hps.marks, hps.place, hqs.marks]
  · rw [hchars, Place.after, List.foldl_append, ← Place.after, ← Place.after, hps.place, hqs.place]

theorem enclosed (hps : Reads w ps [] x) (hqs : Reads x qs ms y) (hrs : Reads y rs [] z) :
    Reads w (ps ++ qs ++ rs) ms z := by
  have hread := (hps.append hqs).append hrs
  rwa [List.append_nil] at hread

theorem joined (h : Reads x (.markup m :: .markup m' :: ps) ms y) :
    Reads x (.markup (m ++ m') :: ps) ms y := by
  have hchars : charsOf (.markup (m ++ m') :: ps) = charsOf (.markup m :: .markup m' :: ps) := by
    simp [charsOf, Piece.chars]
  exact ⟨hchars ▸ h.marks, hchars ▸ h.place⟩

theorem literal (y : Place) (ms : List Mark) (hm : m = String.ofList cs) (hplace : x.after cs = y)
    (hmarks : marksFrom x cs = ms) (h : Reads y ps ms' z) : Reads x (.markup m :: ps) (ms ++ ms') z := by
  have hread : Reads x [.markup m] ms y := by
    have hchars : charsOf [.markup m] = cs := by
      rw [hm]
      simp [charsOf, Piece.chars]
    exact ⟨hchars.symm ▸ hmarks, hchars.symm ▸ hplace⟩
  exact hread.append h

theorem whole (ms : List Mark) (hm : m = String.ofList cs) (hplace : x.after cs = y)
    (hmarks : marksFrom x cs = ms) : Reads x [.markup m] ms y := by
  have hread := literal y ms hm hplace hmarks (nil y)
  rwa [List.append_nil] at hread

theorem text (t : String) (hx : x.takesText = true) (h : Reads (x.holding (escape t.toList)) ps ms y) :
    Reads x (.text t :: ps) ms y := by
  obtain ⟨hafter, hmarks⟩ := after_of_no_delimiters hx fun c hc => isDelimiter_of_mem_escape hc
  have hread : Reads x [.text t] [] (x.holding (escape t.toList)) := by
    have hchars : charsOf [.text t] = escape t.toList := by simp [charsOf, Piece.chars]
    exact ⟨hchars.symm ▸ hmarks, hchars.symm ▸ hafter⟩
  exact hread.append h

theorem blank (n : Nat) (hm : m = String.ofList (List.replicate n ' ')) (h : Reads .betweenTags ps ms z) :
    Reads .betweenTags (.markup m :: ps) ms z := by
  have hplain : ∀ c ∈ List.replicate n ' ', isDelimiter c = false := by
    intro c hc
    rw [List.eq_of_mem_replicate hc]
    rfl
  obtain ⟨hafter, hmarks⟩ := after_of_no_delimiters (x := .betweenTags) rfl hplain
  exact literal .betweenTags [] hm hafter hmarks h

end Reads

/-! ## 3. Cards -/

theorem reads_details {indent : String} (n : Nat)
    (hindent : indent = String.ofList (List.replicate n ' ')) (c : Card) :
    Reads .betweenTags (c.details indent)
      [.time c.posted.toList, .link c.authorUrl.toList c.author.toList] .betweenTags := by
  have hread : Reads .betweenTags (c.details indent)
      [.time (unescape (escape c.posted.toList)),
        .link (unescape (escape c.authorUrl.toList)) (unescape (escape c.author.toList))] .betweenTags := by
    unfold Card.details
    refine .joined (.blank n hindent (.literal _ [] rfl rfl rfl ?_))
    refine .text c.posted rfl (.literal .betweenTags [.time _] rfl rfl rfl ?_)
    refine .text c.age rfl (.joined (.joined (.literal .betweenTags [] rfl rfl rfl ?_)))
    refine .blank n hindent (.literal _ [] rfl rfl rfl ?_)
    refine .text c.authorUrl rfl (.literal (.inText (.link _) []) [] rfl rfl rfl ?_)
    exact .text c.author rfl (.whole [.link _ _] rfl rfl rfl)
  simpa only [unescape_escape] using hread

def Card.marks (c : Card) : List Mark :=
  [.image c.thumbnailUrl.toList, .link c.url.toList c.title.toList, .time c.posted.toList,
    .link c.authorUrl.toList c.author.toList]

theorem reads_contents (c : Card) : Reads .betweenTags c.contents c.marks .betweenTags := by
  have hstart : Reads .betweenTags (c.contents.take 9)
      [.image (unescape (escape c.thumbnailUrl.toList)),
        .link (unescape (escape c.url.toList)) (unescape (escape c.title.toList))] .betweenTags := by
    refine .literal _ [] rfl rfl rfl (.text c.thumbnailUrl rfl ?_)
    refine .joined (.joined (.literal .betweenTags [.image _] rfl rfl rfl (.literal _ [] rfl rfl rfl ?_)))
    refine .literal _ [] rfl rfl rfl (.text c.url rfl ?_)
    refine .literal _ [] rfl rfl rfl (.text c.title rfl ?_)
    refine .literal (.inText (.link _) []) [] rfl rfl rfl (.text c.title rfl ?_)
    exact .whole [.link _ _] rfl rfl rfl
  simp only [unescape_escape] at hstart
  have hend : Reads .betweenTags [.markup "  </ul>\n</div>"] [] .betweenTags := .whole [] rfl rfl rfl
  exact (hstart.append (reads_details 4 rfl c)).append hend

theorem reads_framed {indent : String} (n : Nat)
    (hindent : indent = String.ofList (List.replicate n ' ')) (c : Card) :
    Reads .betweenTags (c.framed indent) c.marks .betweenTags := by
  have hopen : Reads .betweenTags
      [.markup (indent ++ "<div class=\"card widget-content-frame thumbnail-parent\">\n")] []
      .betweenTags := .joined (.blank n hindent (.whole [] rfl rfl rfl))
  have hclose : Reads .betweenTags [.markup (indent ++ "</div>\n")] [] .betweenTags :=
    .joined (.blank n hindent (.whole [] rfl rfl rfl))
  exact hopen.enclosed (reads_contents c) hclose

theorem reads_row (c : Card) : Reads .betweenTags c.row c.marks .betweenTags := by
  have hstart : Reads .betweenTags (c.row.take 7)
      [.image (unescape (escape c.thumbnailUrl.toList)),
        .link (unescape (escape c.url.toList)) (unescape (escape c.title.toList))] .betweenTags := by
    refine .joined (.literal _ [] rfl rfl rfl (.literal _ [] rfl rfl rfl ?_))
    refine .text c.thumbnailUrl rfl ?_
    refine .joined (.literal .betweenTags [.image _] rfl rfl rfl (.literal _ [] rfl rfl rfl ?_))
    refine .text c.url rfl (.literal (.inText (.link _) []) [] rfl rfl rfl (.text c.title rfl ?_))
    exact .joined (.literal .betweenTags [.link _ _] rfl rfl rfl (.whole [] rfl rfl rfl))
  simp only [unescape_escape] at hstart
  have hend : Reads .betweenTags [.markup "          </ul>\n        </div>\n      </li>\n"] [] .betweenTags :=
    .whole [] rfl rfl rfl
  exact (hstart.append (reads_details 12 rfl c)).append hend

theorem reads_flatMap {layout : Card → List Piece} (hlayout : ∀ c, Reads x (layout c) c.marks x)
    (cards : List Card) : Reads x (cards.flatMap layout) (cards.flatMap Card.marks) x := by
  induction cards with
  | nil => exact .nil x
  | cons c cards ih => exact (hlayout c).append ih

/-! ## 4. Pages -/

/-- What the cards of a page show, or the note in their place. -/
def marksOfCards (cards : List Card) : List Mark :=
  if cards.isEmpty then [.note noVideos] else cards.flatMap Card.marks

theorem reads_cards {layout : Card → List Piece} {note : Piece} (hnote : Reads x [note] [.note noVideos] x)
    (hlayout : ∀ c, Reads x (layout c) c.marks x) (cards : List Card) :
    Reads x (if cards.isEmpty then [note] else cards.flatMap layout) (marksOfCards cards) x := by
  unfold marksOfCards
  split
  · exact hnote
  · exact reads_flatMap hlayout cards

theorem reads_head (title : String) : Reads .betweenTags (head title) [] .betweenTags :=
  .literal _ [] rfl rfl rfl (.text title rfl (.whole [] rfl rfl rfl))

theorem reads_page (style : Style) (f : Frame) (cards : List Card) :
    Reads .betweenTags (page style f cards) (marksOfCards cards) .betweenTags := by
  -- Head, opening and closing of a page show nothing.
  cases style with
  | carousel =>
    unfold page carouselPage
    refine .enclosed ((reads_head f.title).append ?_) (reads_cards ?_ (reads_framed 8 rfl) cards) ?_
    · exact .joined (.literal .betweenTags [] rfl rfl rfl (.whole [] rfl rfl rfl))
    · exact .whole [.note noVideos] rfl rfl rfl
    · exact .whole [] rfl rfl rfl
  | grid =>
    unfold page gridPage
    refine .enclosed ((reads_head f.title).append ?_) (reads_cards ?_ (reads_framed 6 rfl) cards) ?_
    · refine .joined (.literal .betweenTags [] rfl rfl rfl (.literal _ [] rfl rfl rfl ?_))
      exact .text _ rfl (.whole [] rfl rfl rfl)
    · exact .whole [.note noVideos] rfl rfl rfl
    · exact .whole [] rfl rfl rfl
  | verticalList =>
    unfold page listPage
    refine .enclosed ((reads_head f.title).append ?_) (reads_cards ?_ reads_row cards) ?_
    · refine .joined (.literal .betweenTags [] rfl rfl rfl (.literal _ [] rfl rfl rfl ?_))
      exact .text _ rfl (.whole [] rfl rfl rfl)
    · exact .whole [.note noVideos] rfl rfl rfl
    · exact .whole [] rfl rfl rfl

/-! ## 5. The list that a page shows -/

def Shown.ofCard (c : Card) : Shown where
  thumbnailUrl := c.thumbnailUrl.toList
  url := c.url.toList
  title := c.title.toList
  posted := c.posted.toList
  authorUrl := c.authorUrl.toList
  author := c.author.toList

theorem shownOf_marksOfCards (cards : List Card) : shownOf (marksOfCards cards) = cards.map Shown.ofCard := by
  unfold marksOfCards
  cases cards with
  | nil => rfl
  | cons c cards =>
    rw [List.isEmpty_cons, if_neg Bool.false_ne_true]
    induction cards generalizing c with
    | nil => rfl
    | cons d cards ih =>
      rw [List.flatMap_cons, List.map_cons, ← ih d]
      rfl

theorem marksOfCards_contains_note (cards : List Card) :
    (marksOfCards cards).contains (.note noVideos) = true ↔ cards = [] := by
  unfold marksOfCards
  cases cards with
  | nil => exact iff_of_true rfl rfl
  | cons c cards =>
    rw [List.isEmpty_cons, if_neg Bool.false_ne_true, List.contains_iff_mem, List.mem_flatMap]
    refine iff_of_false ?_ (List.cons_ne_nil c cards)
    rintro ⟨d, -, hd⟩
    simp [Card.marks] at hd

theorem shown_page (style : Style) (f : Frame) (cards : List Card) :
    shown (charsOf (page style f cards)) = cards.map Shown.ofCard := by
  rw [shown, Html.marks, (reads_page style f cards).marks, shownOf_marksOfCards]

theorem saysEmpty_page (style : Style) (f : Frame) (cards : List Card) :
    saysEmpty (charsOf (page style f cards)) = true ↔ cards = [] := by
  rw [saysEmpty, Html.marks, (reads_page style f cards).marks, marksOfCards_contains_note]

end VideoWall.Html
