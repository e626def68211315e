import Mathlib.Data.List.Forall2
import VideoWall.Environment
import VideoWall.Feed.Record
import VideoWall.Proofs.Feed.Items

/-!
# The items of the entries of a feed

What an item shows of its entry, key by key (`Record.Shows`). YouTube shows every entry; Rumble shows
those with a title and an identifier, and no other. The items stand in the order of the entries, and
those of two lists of entries put together are the items of the two.
-/

namespace VideoWall.Feed

/-! ## 1. What an entry offers -/

def Slot.text : Slot String → String
  | .missing | .vacant => ""
  | .held s => s

theorem Slot.getD_value? (s : Slot String) : s.value?.getD "" = s.text := by
  cases s <;> rfl

namespace EntryRecord

def mediaAddress (e : EntryRecord) : String :=
  match e.mediaThumbnail with
  | .missing | .vacant | .held [] => ""
  | .held (url :: _) => url.text

def imageAddress (e : EntryRecord) : String :=
  match e.image with
  | .missing | .vacant => ""
  | .held url => url.text

/-- The addresses that a provider takes for a thumbnail, the preferred one first. -/
def pictures (p : Provider) (e : EntryRecord) : List String :=
  match p with
  | .youtube => [e.mediaAddress]
  | .rumble => [e.mediaAddress, e.imageAddress]

def thumbnail (p : Provider) (e : EntryRecord) : String :=
  ((e.pictures p).find? (· ≠ "")).getD noThumbnail

theorem thumbnail_ne (p : Provider) (e : EntryRecord) : e.thumbnail p ≠ "" := by
  unfold thumbnail
  cases h : (e.pictures p).find? (· ≠ "") with
  | none => exact (by decide : noThumbnail ≠ "")
  | some url =>
    have hurl := List.find?_some h
    exact of_decide_eq_true hurl

theorem firstThumbnail_ofRecord (e : EntryRecord) :
    (EntryFacts.ofRecord e).firstThumbnail = e.mediaAddress := by
  unfold EntryFacts.ofRecord EntryFacts.firstThumbnail mediaAddress
  cases e.mediaThumbnail with
  | missing => rfl
  | vacant => rfl
  | held urls =>
    cases urls with
    | nil => rfl
    | cons url urls => exact url.getD_value?

theorem image_ofRecord (e : EntryRecord) :
    (EntryFacts.ofRecord e).image.getD "" = e.imageAddress := by
  unfold EntryFacts.ofRecord imageAddress
  cases e.image with
  | missing => rfl
  | vacant => rfl
  | held url => exact url.getD_value?

def toEntry (p : Provider) (e : EntryRecord) : Entry :=
  .ofFacts p (.ofRecord e)

theorem title_toEntry (p : Provider) (e : EntryRecord) : (e.toEntry p).title = e.title.text := by
  cases p with
  | youtube => exact e.title.getD_value?
  | rumble => exact e.title.getD_value?

theorem published_toEntry (p : Provider) (e : EntryRecord) :
    (e.toEntry p).published = e.published.text := by
  cases p with
  | youtube => exact e.published.getD_value?
  | rumble => exact e.published.getD_value?

theorem link_toEntry_youtube (e : EntryRecord) : (e.toEntry .youtube).link = e.link.text :=
  e.link.getD_value?

theorem link_toEntry_rumble (e : EntryRecord) : (e.toEntry .rumble).link = e.id.text :=
  e.id.getD_value?

theorem thumbnail_toEntry (p : Provider) (e : EntryRecord) :
    (e.toEntry p).thumbnail = e.thumbnail p := by
  have hmedia := e.firstThumbnail_ofRecord
  have himage := e.image_ofRecord
  unfold toEntry Entry.thumbnail thumbnail pictures
  cases p with
  | youtube =>
    simp only [Entry.ofFacts, hmedia, List.find?_cons, List.find?_nil]
    by_cases h : e.mediaAddress = "" <;> simp [h]
  | rumble =>
    simp only [Entry.ofFacts, hmedia, himage, List.find?_cons, List.find?_nil]
    by_cases h : e.mediaAddress = ""
    · by_cases h' : e.imageAddress = "" <;> simp [h, h']
    · simp [h]

def isShown (p : Provider) (e : EntryRecord) : Bool :=
  match p with
  | .youtube => true
  | .rumble => e.title.text ≠ "" ∧ e.id.text ≠ ""

theorem isPresentable_toEntry (p : Provider) (e : EntryRecord) :
    (e.toEntry p).isPresentable p = e.isShown p := by
  cases p with
  | youtube => rfl
  | rumble =>
    show (!(e.toEntry .rumble).title.isEmpty && !(e.toEntry .rumble).link.isEmpty) =
      decide (e.title.text ≠ "" ∧ e.id.text ≠ "")
    rw [title_toEntry, link_toEntry_rumble, Bool.eq_iff_iff]
    simp

end EntryRecord

/-! ## 2. What an item shows -/

namespace Record

def channel (p : Provider) (r : Record) : String :=
  match p with
  | .youtube => r.author.text
  | .rumble => r.title.text

def authorAddress (r : Record) : String :=
  match r.authorDetail with
  | .missing | .vacant => ""
  | .held url => url.text

def document (p : Provider) (r : Record) : Document :=
  .ofFacts p (.ofRecord r)

def items (now : Nat → Stamp) (p : Provider) (template : String) (r : Record) : List Item :=
  ((r.document p).items now p template).value

/-- An item shows an entry of a feed that is read at a given time. -/
structure Shows (p : Provider) (template : String) (now : Stamp) (r : Record) (e : EntryRecord)
    (i : Item) : Prop where
  title : i.title = e.title.text
  /-- The link of YouTube goes through the template; Rumble takes the identifier as it is. -/
  url : i.url = match p with
    | .youtube => (VideoLink.viaTemplate e.link.text template VideoLink.idParameter).value
    | .rumble => e.id.text
  author : i.author = r.channel p
  authorUrl : i.authorUrl = match p with
    | .youtube => r.authorAddress ++ "/videos"
    | .rumble => r.link.text
  thumbnail : i.thumbnailUrl = e.thumbnail p
  thumbnail_ne : i.thumbnailUrl ≠ ""
  posted : i.posted = some ((Stamp.read? p e.published.text).getD now)
  zoned : i.kind = .zoned

theorem channel_document (p : Provider) (r : Record) : (r.document p).channel = r.channel p := by
  cases p with
  | youtube => exact r.author.getD_value?
  | rumble => exact r.title.getD_value?

theorem channelLink_document_youtube (r : Record) :
    (r.document .youtube).channelLink = r.authorAddress := by
  show (r.authorDetail.value?.bind Slot.value?).getD "" = r.authorAddress
  unfold authorAddress
  cases r.authorDetail with
  | missing => rfl
  | vacant => rfl
  | held url => exact url.getD_value?

theorem channelLink_document_rumble (r : Record) : (r.document .rumble).channelLink = r.link.text :=
  r.link.getD_value?

theorem entries_document (p : Provider) (r : Record) :
    (r.document p).entries = r.entries.map (EntryRecord.toEntry p) := by
  cases p with
  | youtube => exact List.map_map
  | rumble => exact List.map_map

theorem shows_toItem {now : Stamp} (hnow : now.isZoned = true) (p : Provider) (template : String)
    (r : Record) (e : EntryRecord) :
    r.Shows p template now e ((e.toEntry p).toItem now p (r.document p) template).value where
  title := by
    rw [← e.title_toEntry p]
    cases p <;> rfl
  url := by
    cases p with
    | youtube =>
      show (VideoLink.viaTemplate (e.toEntry .youtube).link template VideoLink.idParameter).value = _
      rw [e.link_toEntry_youtube]
    | rumble => exact e.link_toEntry_rumble
  author := by
    rw [← r.channel_document p]
    cases p <;> rfl
  authorUrl := by
    cases p with
    | youtube => exact congrArg (· ++ "/videos") r.channelLink_document_youtube
    | rumble => exact r.channelLink_document_rumble
  thumbnail := by
    rw [← e.thumbnail_toEntry p]
    cases p <;> rfl
  thumbnail_ne := by
    have hne : (e.toEntry p).thumbnail ≠ "" := e.thumbnail_toEntry p ▸ e.thumbnail_ne p
    cases p with
    | youtube => exact hne
    | rumble => exact hne
  posted := by
    rw [← e.published_toEntry p, ← Stamp.value_readOrNow]
    cases p <;> rfl
  zoned := Entry.kind_toItem hnow p _ _ _

theorem items_eq (now : Nat → Stamp) (p : Provider) (template : String) (r : Record) :
    r.items now p template = (r.entries.zipIdx.filter (·.1.isShown p)).map
      fun e => ((e.1.toEntry p).toItem (now e.2) p (r.document p) template).value := by
  have hshown : (fun e : Entry × Nat => e.1.isPresentable p) ∘ Prod.map (EntryRecord.toEntry p) id =
      fun e => e.1.isShown p := by
    funext e
    exact e.1.isPresentable_toEntry p
  show (itemsOf now p (r.document p) template (r.document p).entries).value = _
  rw [r.entries_document p]
  calc
    _ = (((r.entries.map (EntryRecord.toEntry p)).zipIdx).filter (·.1.isPresentable p)).map
          fun e => (e.1.toItem (now e.2) p (r.document p) template).value :=
      value_itemsOf now p (r.document p) template _ 0
    _ = _ := by
      rw [List.zipIdx_map, List.filter_map, hshown, List.map_map]
      rfl

theorem shows_items {now : Nat → Stamp} (hnow : ∀ n, (now n).isZoned = true) (p : Provider)
    (template : String) (r : Record) :
    List.Forall₂ (fun e i => r.Shows p template (now e.2) e.1 i)
      (r.entries.zipIdx.filter (·.1.isShown p)) (r.items now p template) := by
  rw [items_eq, List.forall₂_map_right_iff, List.forall₂_same]
  intro e _
  exact shows_toItem (hnow e.2) p template r e.1

theorem items_with_entries (now : Nat → Stamp) (p : Provider) (template : String) (r : Record)
    (entries : List EntryRecord) :
    { r with entries }.items now p template =
      (itemsOf now p (r.document p) template (entries.map (EntryRecord.toEntry p))).value := by
  have hitem : ∀ t (e : Entry),
      e.toItem t p ({ r with entries }.document p) template = e.toItem t p (r.document p) template := by
    intro t e
    cases p <;> rfl
  have hwith := value_itemsOf now p ({ r with entries }.document p) template
    (entries.map (EntryRecord.toEntry p)) 0
  have hbare := value_itemsOf now p (r.document p) template (entries.map (EntryRecord.toEntry p)) 0
  simp only [hitem] at hwith
  unfold items Document.items
  rw [entries_document]
  exact hwith.trans hbare.symm

theorem items_append (now : Nat → Stamp) (p : Provider) (template : String) (r : Record)
    (before behind : List EntryRecord) :
    { r with entries := before ++ behind }.items now p template =
      { r with entries := before }.items now p template ++
        { r with entries := behind }.items (fun n => now (n + before.length)) p template := by
  simp only [items_with_entries]
  rw [List.map_append, value_itemsOf_append, List.length_map]

/-- Every entry of YouTube, and every entry of Rumble with a title and an identifier, has its item. -/
theorem entries_become_items_in_order (clock : Clock) (source : Nat) (template : String)
    (r : Record) :
    List.Forall₂
        (fun e i => r.Shows .youtube template (clock.reading .youtube source e.2) e.1 i)
        r.entries.zipIdx (r.items (clock.reading .youtube source) .youtube template) ∧
      List.Forall₂
        (fun e i => r.Shows .rumble template (clock.reading .rumble source e.2) e.1 i)
        (r.entries.zipIdx.filter fun e => e.1.title.text ≠ "" ∧ e.1.id.text ≠ "")
        (r.items (clock.reading .rumble source) .rumble template) ∧
      ∀ p before behind,
        { r with entries := before ++ behind }.items (clock.reading p source) p template =
          { r with entries := before }.items (clock.reading p source) p template ++
            { r with entries := behind }.items
              (fun n => clock.reading p source (n + before.length)) p template := by
  have hzoned : ∀ p n, (clock.reading p source n).isZoned = true :=
    fun p n => Stamp.isZoned_of_offset (clock.offset_reading p source n)
  refine ⟨?_, ?_, ?_⟩
  · have hitems := shows_items (hzoned .youtube) .youtube template r
    have hall : r.entries.zipIdx.filter (·.1.isShown .youtube) = r.entries.zipIdx :=
      List.filter_eq_self.mpr fun _ _ => rfl
    rwa [hall] at hitems
  · exact shows_items (hzoned .rumble) .rumble template r
  · intro p before behind
    exact items_append (clock.reading p source) p template r before behind

end Record

end VideoWall.Feed
