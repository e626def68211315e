import VideoWall.Html.Reader
import VideoWall.Json.Reader
import VideoWall.Widget.Output

/-!
# Reading the JSON document of a wall

What another program finds in the JSON document of a wall: its list of videos, with the six fields that
the cards of a page show.
-/

namespace VideoWall

namespace JsonValue

def field? (name : String) : JsonValue → Option JsonValue
  | object fields => fields.lookup name
  | _ => none

def chars? : JsonValue → Option (List Char)
  | string s => some s.toList
  | _ => none

def text? (name : String) (v : JsonValue) : Option (List Char) :=
  (v.field? name).bind chars?

end JsonValue

namespace Html.Shown

def ofItem (i : Item) : Shown where
  thumbnailUrl := i.thumbnailUrl.toList
  url := i.url.toList
  title := i.title.toList
  posted := (Card.postedText i.posted).toList
  authorUrl := i.authorUrl.toList
  author := i.author.toList

def ofJson? (v : JsonValue) : Option Shown := do
  return {
    thumbnailUrl := ← v.text? "thumbnail_url"
    url := ← v.text? "url"
    title := ← v.text? "title"
    posted := ← v.text? "time_posted"
    authorUrl := ← v.text? "author_url"
    author := ← v.text? "author" }

end Html.Shown

namespace Widget

def videosOf? (document : JsonValue) : Option (List Html.Shown) :=
  match document.field? "videos" with
  | some (.array videos) => videos.mapM Html.Shown.ofJson?
  | _ => none

def listed? (text : String) : Option (List Html.Shown) :=
  (JsonValue.ofText? text).bind videosOf?

end Widget

end VideoWall
