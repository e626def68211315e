import VideoWall.Feed.Document

/-!
# Records of a feed

What a reader of pages leaves of a feed, key by key. A key may be missing, and it may be there without a
value; both leave the same thing unsaid.
-/

namespace VideoWall.Feed

/-- What stands under a key of a record. -/
inductive Slot (α : Type) where
  | missing
  /-- The key is there without a value. -/
  | vacant
  | held (a : α)
deriving DecidableEq, Repr

def Slot.value? {α : Type} : Slot α → Option α
  | missing | vacant => none
  | held a => some a

/-- What a reader leaves of one entry. -/
structure EntryRecord where
  title : Slot String := .missing
  published : Slot String := .missing
  link : Slot String := .missing
  id : Slot String := .missing
  /-- The thumbnails of the media extension, each a record of its own with an address. -/
  mediaThumbnail : Slot (List (Slot String)) := .missing
  image : Slot (Slot String) := .missing
deriving DecidableEq, Repr

structure Record where
  version : Slot String := .missing
  author : Slot String := .missing
  authorDetail : Slot (Slot String) := .missing
  title : Slot String := .missing
  link : Slot String := .missing
  entries : List EntryRecord := []
  problem : Slot String := .missing
deriving DecidableEq, Repr

def EntryFacts.ofRecord (e : EntryRecord) : EntryFacts where
  title := e.title.value?
  published := e.published.value?
  link := e.link.value?
  id := e.id.value?
  thumbnails := (e.mediaThumbnail.value?.getD []).map Slot.value?
  image := e.image.value?.bind Slot.value?

def Facts.ofRecord (r : Record) : Facts where
  version := r.version.value?
  author := r.author.value?
  authorLink := r.authorDetail.value?.bind Slot.value?
  title := r.title.value?
  link := r.link.value?
  entries := r.entries.map EntryFacts.ofRecord
  problem := r.problem.value?

end VideoWall.Feed
