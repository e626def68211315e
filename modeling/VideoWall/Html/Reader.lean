import VideoWall.Html.Piece

/-!
# Reading a page

What a browser finds on the page of a wall: the tags with their attributes and the texts between them,
and in them the cards with their six fields. The page is read once, character by character, and references
are undone on the way.
-/

namespace VideoWall.Html

def unescape : List Char → List Char
  | '&' :: 'a' :: 'm' :: 'p' :: ';' :: cs => '&' :: unescape cs
  | '&' :: 'l' :: 't' :: ';' :: cs => '<' :: unescape cs
  | '&' :: 'g' :: 't' :: ';' :: cs => '>' :: unescape cs
  | '&' :: '#' :: '3' :: '4' :: ';' :: cs => '"' :: unescape cs
  | '&' :: '#' :: '3' :: '9' :: ';' :: cs => '\'' :: unescape cs
  | c :: cs => c :: unescape cs
  | [] => []

/-! ## 1. Tags -/

/-- A tag with its attributes, references undone. -/
structure Tag where
  name : List Char
  attributes : List (List Char × List Char)
deriving DecidableEq, Repr

namespace Tag

def add (t : Tag) (key value : List Char) : Tag :=
  { t with attributes := t.attributes ++ [(key, value)] }

def value (t : Tag) (key : List Char) : List Char :=
  (t.attributes.lookup key).getD []

end Tag

/-! ## 2. Marks -/

inductive Mark where
  | image (source : List Char)
  | time (value : List Char)
  | link (target text : List Char)
  | note (text : List Char)
deriving DecidableEq, Repr

inductive Caption where
  | link (target : List Char)
  | note
deriving DecidableEq, Repr

def Caption.mark : Caption → List Char → Mark
  | link target, text => .link target text
  | note, text => .note text

namespace Tag

def mark? (t : Tag) : Option Mark :=
  if t.name == ['i', 'm', 'g'] then some (.image (t.value ['s', 'r', 'c']))
  else if t.name == ['t', 'i', 'm', 'e'] then
    some (.time (t.value ['d', 'a', 't', 'e', 't', 'i', 'm', 'e']))
  else none

def caption? (t : Tag) : Option Caption :=
  if t.name == ['a'] then some (.link (t.value ['h', 'r', 'e', 'f']))
  else if t.value ['c', 'l', 'a', 's', 's'] ==
    ['t', 'e', 'x', 't', '-', 'c', 'e', 'n', 't', 'e', 'r'] then some .note
  else none

end Tag

inductive Place where
  | betweenTags
  | inText (caption : Caption) (seen : List Char)
  | inName (seen : List Char)
  | inTag (t : Tag)
  | inAttribute (t : Tag) (seen : List Char)
  | inValue (t : Tag) (key seen : List Char)
deriving DecidableEq, Repr

def Place.behind (t : Tag) : Place :=
  match t.caption? with
  | some caption => .inText caption []
  | none => .betweenTags

namespace Place

def next : Place → Char → Place
  | betweenTags, c => if c == '<' then inName [] else betweenTags
  | inText caption seen, c => if c == '<' then inName [] else inText caption (seen ++ [c])
  | inName seen, c =>
    if c == '>' then behind ⟨seen, []⟩ else if c == ' ' then inTag ⟨seen, []⟩ else inName (seen ++ [c])
  | inTag t, c => if c == '>' then behind t else if c == ' ' then inTag t else inAttribute t [c]
  | inAttribute t seen, c =>
    if c == '>' then behind t
    else if c == '"' then inValue t seen []
    else if c == '=' then inAttribute t seen
    else inAttribute t (seen ++ [c])
  | inValue t key seen, c =>
    if c == '"' then inTag (t.add key (unescape seen)) else inValue t key (seen ++ [c])

def mark? : Place → Char → Option Mark
  | inText caption seen, c => if c == '<' then some (caption.mark (unescape seen)) else none
  | inName seen, c => if c == '>' then (Tag.mk seen []).mark? else none
  | inTag t, c => if c == '>' then t.mark? else none
  | inAttribute t _, c => if c == '>' then t.mark? else none
  | _, _ => none

end Place

def marksFrom : Place → List Char → List Mark
  | _, [] => []
  | x, c :: cs => (x.mark? c).toList ++ marksFrom (x.next c) cs

def marks (page : List Char) : List Mark :=
  marksFrom .betweenTags page

/-! ## 3. Cards -/

structure Shown where
  thumbnailUrl : List Char
  url : List Char
  title : List Char
  posted : List Char
  authorUrl : List Char
  author : List Char
deriving DecidableEq, Repr

/-- The cards that some marks make up: an image, the link of the title, the timestamp and the link of
the author. -/
def shownOf : List Mark → List Shown
  | .image source :: .link url title :: .time posted :: .link authorUrl author :: rest =>
    ⟨source, url, title, posted, authorUrl, author⟩ :: shownOf rest
  | _ :: rest => shownOf rest
  | [] => []

def shown (page : List Char) : List Shown :=
  shownOf (marks page)

def noVideos : List Char :=
  ['N', 'o', ' ', 'v', 'i', 'd', 'e', 'o', 's']

def saysEmpty (page : List Char) : Bool :=
  (marks page).contains (.note noVideos)

/-! ## 4. Escaped text -/

theorem unescape_cons {c : Char} (h : c ≠ '&') (cs : List Char) :
    unescape (c :: cs) = c :: unescape cs := by
  rw [unescape.eq_def]
  split <;> simp_all

theorem unescape_escapeChar (c : Char) (cs : List Char) :
    unescape (escapeChar c ++ cs) = c :: unescape cs := by
  unfold escapeChar
  split
  · simp [unescape]
  · simp [unescape]
  · simp [unescape]
  · simp [unescape]
  · simp [unescape]
  · exact unescape_cons (by assumption) cs

theorem unescape_escape (cs : List Char) : unescape (escape cs) = cs := by
  induction cs with
  | nil => rfl
  | cons c cs ih => rw [escape, List.flatMap_cons, unescape_escapeChar, ← escape, ih]

end VideoWall.Html
