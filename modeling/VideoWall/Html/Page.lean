import VideoWall.Html.Card
import VideoWall.Text.Digit

/-!
# The page of a wall

A wall is shown as a carousel, a grid or a vertical list of cards, or as a placeholder that reloads
itself while there is no content yet.
-/

namespace VideoWall.Html

inductive Style where
  | carousel
  | grid
  | verticalList
deriving DecidableEq, Repr

namespace Style

/-- The style of a name; the carousel for every other name. -/
def ofName (s : String) : Style :=
  if s == "grid-cards" then grid
  else if s == "vertical-list" then verticalList
  else carousel

def templateName : Style → String
  | carousel => "videos.html.j2"
  | grid => "videos-grid.html.j2"
  | verticalList => "videos-vertical-list.html.j2"

end Style

structure Frame where
  title : String
  collapseAfter : Int
  collapseAfterRows : Int
deriving DecidableEq, Repr

def head (title : String) : List Piece :=
  [.markup "<div class=\"widget widget-type-videos\">\n  <div class=\"widget-header\"><h2>",
    .text title, .markup "</h2></div>\n"]

def carouselPage (f : Frame) (cards : List Card) : List Piece :=
  head f.title ++
  [.markup ("  <div class=\"widget-content\">\n    <div class=\"carousel-container\">\n" ++
    "      <div class=\"cards-horizontal carousel-items-container\">\n")] ++
  (if cards.isEmpty then [.markup "        <p class=\"text-center\">No videos</p>\n"]
    else cards.flatMap (Card.framed "        ")) ++
  [.markup "      </div>\n    </div>\n  </div>\n</div>"]

def gridPage (f : Frame) (cards : List Card) : List Piece :=
  head f.title ++
  [.markup ("  <div class=\"widget-content\">\n" ++
    "    <div class=\"cards-grid collapsible-container\" data-collapse-after-rows=\""),
    .text (Text.ofInt f.collapseAfterRows), .markup "\">\n"] ++
  (if cards.isEmpty then [.markup "      <p class=\"text-center\">No videos</p>\n"]
    else cards.flatMap (Card.framed "      ")) ++
  [.markup "    </div>\n  </div>\n</div>"]

def listPage (f : Frame) (cards : List Card) : List Piece :=
  head f.title ++
  [.markup ("  <div class=\"widget-content\">\n" ++
    "    <ul class=\"list list-gap-14 collapsible-container\" data-collapse-after=\""),
    .text (Text.ofInt f.collapseAfter), .markup "\">\n"] ++
  (if cards.isEmpty then [.markup "      <li class=\"text-center\">No videos</li>\n"]
    else cards.flatMap Card.row) ++
  [.markup "    </ul>\n  </div>\n</div>"]

def page (style : Style) (f : Frame) (cards : List Card) : List Piece :=
  match style with
  | .carousel => carouselPage f cards
  | .grid => gridPage f cards
  | .verticalList => listPage f cards

def reloadMilliseconds : Nat := 5000

def loadingPage (title : String) : List Piece :=
  head title ++
  [.markup ("  <div class=\"widget-loading\">Loading videos...<script>setTimeout(function()\x7b" ++
    "window.location.reload();\x7d, "),
    .text (Text.ofNat reloadMilliseconds), .markup ");</script></div>\n</div>"]

end VideoWall.Html
