import VideoWall.Failure
import VideoWall.Provider

/-!
# Feed documents

What a page says about a feed and its entries, and the part of it that a provider uses.
-/

namespace VideoWall.Feed

structure EntryFacts where
  title : Option String := none
  published : Option String := none
  link : Option String := none
  id : Option String := none
  /-- The addresses of the thumbnails, in order; an address may be missing. -/
  thumbnails : List (Option String) := []
  image : Option String := none
deriving DecidableEq, Repr, Inhabited

structure Facts where
  /-- The format of the feed; empty or missing if the page is no feed. -/
  version : Option String := none
  author : Option String := none
  authorLink : Option String := none
  title : Option String := none
  link : Option String := none
  entries : List EntryFacts := []
  problem : Option String := none
deriving DecidableEq, Repr, Inhabited

/-- An entry as a provider sees it. Unknown texts are empty. -/
structure Entry where
  title : String
  published : String
  link : String
  thumbnailUrl : String
  /-- The thumbnail in the media extension, for providers that have an image beside it. -/
  mediaThumbnailUrl : String
deriving DecidableEq, Repr, Inhabited

structure Document where
  channel : String
  channelLink : String
  entries : List Entry
deriving DecidableEq, Repr, Inhabited

/-- The address of the first thumbnail; empty without one. -/
def EntryFacts.firstThumbnail (e : EntryFacts) : String :=
  match e.thumbnails with
  | url :: _ => url.getD ""
  | [] => ""

def Entry.ofFacts (provider : Provider) (e : EntryFacts) : Entry :=
  match provider with
  | .youtube =>
    { title := e.title.getD "", published := e.published.getD "", link := e.link.getD "",
      thumbnailUrl := e.firstThumbnail, mediaThumbnailUrl := "" }
  | .rumble =>
    { title := e.title.getD "", published := e.published.getD "", link := e.id.getD "",
      thumbnailUrl := e.image.getD "", mediaThumbnailUrl := e.firstThumbnail }

/-- The document that a provider sees: the author of the feed or the feed itself is the channel. -/
def Document.ofFacts (provider : Provider) (f : Facts) : Document :=
  let entries := f.entries.map (Entry.ofFacts provider)
  match provider with
  | .youtube => ⟨f.author.getD "", f.authorLink.getD "", entries⟩
  | .rumble => ⟨f.title.getD "", f.link.getD "", entries⟩

def Facts.document (f : Facts) (provider : Provider) (url : String) : Except Failure Document :=
  match f.version with
  | none => .error (.notFeed url f.problem)
  | some v =>
    if v.isEmpty then .error (.notFeed url f.problem) else .ok (.ofFacts provider f)

end VideoWall.Feed
