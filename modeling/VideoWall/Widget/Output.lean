import VideoWall.Html.Page
import VideoWall.Json.Value
import VideoWall.Widget.State

/-!
# The output of a wall

A state of a wall as a page of HTML and as a JSON document. Both show the same items in the same order.
-/

namespace VideoWall.Widget

structure PageOptions where
  style : String
  frame : Html.Frame
deriving DecidableEq, Repr

def PageOptions.ofSettings (s : Settings) : PageOptions :=
  ⟨s.style, s.title, s.collapseAfter, s.collapseAfterRows⟩

/-- The style, title and folds that a page has where nothing is asked. -/
def PageOptions.plain : PageOptions := ⟨"", Settings.defaultTitle, 7, 4⟩

namespace State

def pieces (now : Stamp) (o : PageOptions) (s : State) :
    Except ClockMismatch (List Html.Piece) :=
  if s.contentAvailable then
    (s.items.mapM (Html.Card.ofItem now)).map (Html.page (.ofName o.style) o.frame)
  else .ok (Html.loadingPage o.frame.title)

def pageNotice (o : PageOptions) (s : State) : Notice :=
  if s.contentAvailable then
    .renderingItems s.items.length (Html.Style.ofName o.style).templateName o.style
  else .renderingLoading

def html (now : Stamp) (o : PageOptions) (s : State) : Logged (Except ClockMismatch String) := do
  Logged.say (s.pageNotice o)
  return (s.pieces now o).map Html.render

/-- An item in the JSON document; nothing without a timestamp. -/
def itemJson (i : Item) : Option JsonValue :=
  i.posted.map fun posted =>
    .object [("title", .string i.title), ("url", .string i.url), ("author", .string i.author),
      ("author_url", .string i.authorUrl), ("thumbnail_url", .string i.thumbnailUrl),
      ("time_posted", .string posted.isoText)]

def jsonValue (s : State) : Option JsonValue :=
  (s.items.mapM itemJson).map fun videos =>
    .object [("content_available", .bool s.contentAvailable),
      ("refresh_interval_seconds", .int s.refreshSeconds),
      ("status", match s.lastResult with | some r => .string r.status.word | none => .null),
      ("failed_count", .int (match s.lastResult with | some r => r.failedCount | none => 0)),
      ("videos", .array videos)]

def json (s : State) : Option String :=
  s.jsonValue.map JsonValue.toText

end State

end VideoWall.Widget
