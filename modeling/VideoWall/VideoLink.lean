import VideoWall.Notice
import VideoWall.Url.Query
import VideoWall.Url.Split

/-!
# Video links

A template turns the link of a video into a link to another player: the identifier of the video, a
parameter in the query of its link, takes the place of a mark in the template.
-/

namespace VideoWall.VideoLink

def mark : List Char := "\x7bVIDEO-ID\x7d".toList

/-- The link that stands in for a link that cannot be read. -/
def unreadable : String := "#"

def idParameter : String := "v"

/-- The identifier of a video: the first value of a parameter in the query of its link. -/
def id (link param : List Char) : Except Url.Fault (List Char) :=
  (Url.query link).map (Url.firstValue param)

def fill (template id : List Char) : List Char :=
  Text.replaceAll mark id template

/-- The link through a template that is not empty, or why the link cannot be read. -/
def through (link template param : String) : Except Url.Fault String :=
  (id link.toList param.toList).map fun v => String.ofList (fill template.toList v)

/-- The link through a template; without a template it stays as it is. -/
def viaTemplate (link template param : String) : Logged String :=
  if template.isEmpty then pure link
  else match through link template param with
    | .ok url => pure url
    | .error fault => do
      Logged.say (.unreadableLink link fault)
      return unreadable

end VideoWall.VideoLink
