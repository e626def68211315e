import VideoWall.Settings.Basic
import VideoWall.Text.Blank
import VideoWall.Xml.Tree

/-!
# Writing settings

Settings as a tree of elements, and the other trees that say the same: the elements of a level may stand
in any order, with elements of unknown names between them, and a list may hold blank entries.
-/

namespace VideoWall.Settings

def flagText (b : Bool) : String :=
  if b then "true" else "false"

/-- What one element below the root says. -/
inductive Field where
  | text (tag content : String)
  /-- The entries of a list, each under the name of an entry. -/
  | list (tag entryTag : String) (entries : List String)
  | logging (l : LoggingSettings)

def Field.tag : Field → String
  | text tag _ => tag
  | list tag _ _ => tag
  | logging _ => "logging"

def fields (s : Settings) : List Field :=
  [.text "title" s.title, .text "video-url-template" s.videoUrlTemplate, .text "style" s.style] ++
  (s.limit.map fun n => .text "limit" (Text.ofInt n)).toList ++
  [.text "include-shorts" (flagText s.includeShorts),
    .text "collapse-after" (Text.ofInt s.collapseAfter),
    .text "collapse-after-rows" (Text.ofInt s.collapseAfterRows),
    .text "concurrency" (Text.ofInt s.concurrency), .text "timeout" s.timeout.toText,
    .list "channels" "channel" s.channels, .list "playlists" "playlist" s.playlists,
    .list "rumble-channels" "channel" s.rumbleChannels, .logging s.logging]

def loggingFields (l : LoggingSettings) : List (String × String) :=
  ("level", l.level) :: (l.file.map fun path => ("file", path)).toList

/-! ## 1. One tree -/

def plain (tag : String) (text : Option String) (children : List Xml.Element) : Xml.Element :=
  .node ⟨"", tag, ""⟩ text children

def leaf (tag text : String) : Xml.Element :=
  plain tag (some text) []

def Field.element : Field → Xml.Element
  | text tag content => leaf tag content
  | list tag entryTag entries => plain tag none (entries.map (leaf entryTag))
  | logging l => plain "logging" none ((loggingFields l).map fun f => leaf f.1 f.2)

def toTree (s : Settings) : Xml.Element :=
  plain "widget" none (s.fields.map Field.element)

/-! ## 2. All trees -/

def tags : List String :=
  ["title", "video-url-template", "style", "limit", "include-shorts", "collapse-after",
    "collapse-after-rows", "concurrency", "timeout", "channels", "playlists", "rumble-channels",
    "logging"]

def loggingTags : List String := ["level", "file"]

def isKnown (tags : List String) (e : Xml.Element) : Bool :=
  tags.any e.isNamed

/-- Whether the elements of known names among some say the given facts, one each, in any order. -/
def Arranges {α : Type} (known : List String) (fits : α → Xml.Element → Prop) (facts : List α)
    (children : List Xml.Element) : Prop :=
  ∃ pairs : List (α × Xml.Element), pairs.map Prod.fst = facts ∧
    (children.filter (isKnown known)).Perm (pairs.map Prod.snd) ∧ ∀ p ∈ pairs, fits p.1 p.2

/-- Whether an element holds a text under a name; an element without a text holds the empty one. -/
def Holds (f : String × String) (e : Xml.Element) : Prop :=
  e.isNamed f.1 = true ∧ e.text.getD "" = f.2

def isBlankEntry (e : Xml.Element) : Bool :=
  Text.isBlankText (e.text.getD "")

/-- Whether an element says a field: a list may hold blank entries besides its own. -/
def Field.IsSaidBy : Field → Xml.Element → Prop
  | text tag content, e => Holds (tag, content) e
  | list tag _ entries, e => e.isNamed tag = true ∧
      (e.children.filter fun c => !isBlankEntry c).map Xml.Element.text = entries.map some
  | logging l, e => e.isNamed "logging" = true ∧
      Arranges loggingTags Holds (loggingFields l) e.children

def IsSaidBy (s : Settings) (root : Xml.Element) : Prop :=
  Arranges tags Field.IsSaidBy s.fields root.children

end VideoWall.Settings
