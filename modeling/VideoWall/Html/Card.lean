import VideoWall.Html.Piece
import VideoWall.Item
import VideoWall.Time.Age

/-!
# Cards

An item in the markup of each layout. All layouts show the same six fields and the age of the item.
-/

namespace VideoWall.Html

structure Card where
  thumbnailUrl : String
  title : String
  url : String
  author : String
  authorUrl : String
  /-- The timestamp in machine-readable form; empty without one. -/
  posted : String
  /-- The label of the item's age; empty without a timestamp. -/
  age : String
deriving DecidableEq, Repr

namespace Card

def postedText : Option Stamp → String
  | some t => t.isoText
  | none => ""

def ageText (now : Stamp) : Option Stamp → Except ClockMismatch String
  | some t => (Age.since t now).map Age.label
  | none => .ok ""

def ofItem (now : Stamp) (i : Item) : Except ClockMismatch Card :=
  (ageText now i.posted).map fun age =>
    ⟨i.thumbnailUrl, i.title, i.url, i.author, i.authorUrl, postedText i.posted, age⟩

/-- Timestamp, age and author of a card, from the column on at which its list items start. -/
def details (indent : String) (c : Card) : List Piece :=
  [.markup (indent ++ "<li class=\"shrink-0\"><time datetime=\""), .text c.posted, .markup "\">",
    .text c.age,
    .markup ("</time></li>\n" ++ indent ++
      "<li class=\"min-width-0\"><a class=\"block text-truncate\" href=\""),
    .text c.authorUrl, .markup "\" target=\"_blank\" rel=\"noreferrer\">", .text c.author,
    .markup "</a></li>\n"]

def contents (c : Card) : List Piece :=
  [.markup "<img class=\"video-thumbnail thumbnail\" loading=\"lazy\" src=\"", .text c.thumbnailUrl,
    .markup ("\" alt=\"\">\n" ++
      "<div class=\"margin-top-10 margin-bottom-widget flex flex-column grow\">\n" ++
      "  <a class=\"video-title color-primary-if-not-visited\" href=\""),
    .text c.url, .markup "\" target=\"_blank\" rel=\"noreferrer\" title=\"", .text c.title,
    .markup "\">", .text c.title,
    .markup "</a>\n  <ul class=\"list-horizontal-text flex-nowrap margin-top-7\">\n"] ++
  c.details "    " ++ [.markup "  </ul>\n</div>"]

def framed (indent : String) (c : Card) : List Piece :=
  .markup (indent ++ "<div class=\"card widget-content-frame thumbnail-parent\">\n") ::
    c.contents ++ [.markup (indent ++ "</div>\n")]

def row (c : Card) : List Piece :=
  [.markup ("      <li class=\"flex thumbnail-parent gap-10 items-center\">\n" ++
      "        <img class=\"video-horizontal-list-thumbnail thumbnail\" loading=\"lazy\" src=\""),
    .text c.thumbnailUrl,
    .markup ("\" alt=\"\">\n        <div class=\"min-width-0\">\n" ++
      "          <a class=\"block text-truncate color-primary-if-not-visited\" href=\""),
    .text c.url, .markup "\" target=\"_blank\" rel=\"noreferrer\">", .text c.title,
    .markup ("</a>\n" ++
      "          <ul class=\"list-horizontal-text flex-nowrap text-compact\">\n")] ++
  c.details "            " ++
  [.markup "          </ul>\n        </div>\n      </li>\n"]

end Card

end VideoWall.Html
