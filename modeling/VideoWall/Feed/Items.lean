import VideoWall.Feed.Document
import VideoWall.Notice
import VideoWall.Time.Layout
import VideoWall.VideoLink

/-!
# Items of a feed

The items that the entries of a feed become. A timestamp that cannot be read counts as now, so that it
never costs an item; an entry of Rumble without a title or a link is no item.
-/

namespace VideoWall

namespace Stamp

/-- The timestamp that a provider's text shows, or the present time, which is then noted. -/
def readOrNow (now : Stamp) (provider : Provider) (raw : Option String) : Logged Stamp :=
  match raw.bind (read? provider) with
  | some t => pure t
  | none => do
    Logged.say (.unreadableTime provider raw)
    return now

end Stamp

namespace Feed

def noThumbnail : String :=
  "data:image/svg+xml,%3Csvg xmlns='http://www.w3.org/2000/svg' width='16' " ++
    "height='9'%3E%3Crect width='16' height='9' fill='%23ccc'/%3E%3C/svg%3E"

/-- The thumbnail of an entry: the first that is not empty, or a stand-in. -/
def Entry.thumbnail (e : Entry) : String :=
  if !e.mediaThumbnailUrl.isEmpty then e.mediaThumbnailUrl
  else if !e.thumbnailUrl.isEmpty then e.thumbnailUrl
  else noThumbnail

/-- Whether an entry has the texts without which a provider's entry is no item. -/
def Entry.isPresentable (provider : Provider) (e : Entry) : Bool :=
  match provider with
  | .youtube => true
  | .rumble => !e.title.isEmpty && !e.link.isEmpty

def Entry.toItem (now : Stamp) (provider : Provider) (d : Document) (template : String) (e : Entry) :
    Logged Item := do
  match provider with
  | .youtube =>
    let url ← VideoLink.viaTemplate e.link template VideoLink.idParameter
    let posted ← Stamp.readOrNow now .youtube (some e.published)
    return ⟨e.thumbnail, e.title, url, d.channel, d.channelLink ++ "/videos", some posted⟩
  | .rumble =>
    let posted ← Stamp.readOrNow now .rumble (some e.published)
    return ⟨e.thumbnail, e.title, e.link, d.channel, d.channelLink, some posted⟩

/-- The items of a list of entries, in order. The clock shows `now n` at the `n`-th entry. -/
def itemsOf (now : Nat → Stamp) (provider : Provider) (d : Document) (template : String) :
    List Entry → Logged (List Item)
  | [] => pure []
  | e :: es => do
    if e.isPresentable provider then
      let item ← e.toItem (now 0) provider d template
      let items ← itemsOf (fun n => now (n + 1)) provider d template es
      return item :: items
    else
      Logged.say (.skippedEntry d.channel)
      itemsOf (fun n => now (n + 1)) provider d template es

def Document.items (now : Nat → Stamp) (provider : Provider) (template : String) (d : Document) :
    Logged (List Item) :=
  itemsOf now provider d template d.entries

end Feed

end VideoWall
