import VideoWall.Feed.Items
import VideoWall.Item.Comparing

/-!
# Items of a feed, with everything that can be raised

The way from an entry to its item, and from items to their order, with each step that can fail: a text
in no layout, a day, an offset or a time of day that does not exist, a link that cannot be taken apart,
two timestamps without an order. What a step raises is passed on until some step catches it, and a step
catches no more than it names.
-/

namespace VideoWall

inductive Raised where
  | otherLayout
  | noSuchDay (year month day : Nat)
  /-- The offset is a day or more. -/
  | offsetTooLarge (microseconds : Int)
  /-- No day has such a time; leap seconds are none either. -/
  | noSuchTime (hour minute second : Nat)
  | badLink (fault : Url.Fault)
  | noOrder (why : Incomparable)
deriving DecidableEq, Repr

/-- Whether a value was bad, rather than two values of kinds that do not go together. -/
def Raised.isBadValue : Raised → Bool
  | noOrder _ => false
  | _ => true

abbrev Attempt (α : Type) := ExceptT Raised Logged α

namespace Raising

def valueOr {α : Type} (e : Raised) : Option α → Except Raised α
  | some a => .ok a
  | none => .error e

/-! ## 1. Timestamps -/

/-- The timestamp of the fields of a layout: its day, then its offset, then its time of day. -/
def stamp (f : Layout.Fields) : Except Raised Stamp := do
  let date ← valueOr (.noSuchDay f.year f.month f.day) (Date.of? f.year f.month f.day)
  let offset ← valueOr (.offsetTooLarge f.offset) (ZoneOffset.of? f.offset)
  let time ← valueOr (.noSuchTime f.hour f.minute f.second)
    (TimeOfDay.of? f.hour f.minute f.second 0)
  return ⟨date, time, some offset⟩

def readIn (layout : Layout) (cs : List Char) : Except Raised Stamp := do
  stamp (← valueOr .otherLayout (Layout.readOnto? {} cs layout))

/-- The timestamp that a text shows in the first layout that it fits. A bad value in one layout is
caught, and the next layout is tried. -/
def readInAny (cs : List Char) : List Layout → Except Raised (Option Stamp)
  | [] => .ok none
  | layout :: layouts =>
    match readIn layout cs with
    | .ok t => .ok (some t)
    | .error e => if e.isBadValue then readInAny cs layouts else .error e

def readOrNow (now : Stamp) (provider : Provider) (raw : Option String) : Attempt Stamp := do
  let text := Text.trim (raw.getD "")
  let read ← ExceptT.mk <| pure <|
    if text = "" ∨ text = Stamp.invalidDateText then .ok none
    else readInAny text.toList (Layout.ofProvider provider)
  match read with
  | some t => return t
  | none => do
    Logged.say (.unreadableTime provider raw)
    return now

/-! ## 2. Links -/

/-- The link through a template. A link that cannot be taken apart is caught; what else is raised is
passed on. -/
def viaTemplate (link template param : String) : Attempt String :=
  if template.isEmpty then return link
  else match (Url.query link.toList).mapError Raised.badLink with
    | .ok query =>
      return String.ofList (VideoLink.fill template.toList (Url.firstValue param.toList query))
    | .error (.badLink fault) => do
      Logged.say (.unreadableLink link fault)
      return VideoLink.unreadable
    | .error e => throw e

/-! ## 3. Items -/

/-- The item of an entry. Nothing is caught. -/
def toItem (now : Stamp) (provider : Provider) (d : Feed.Document) (template : String)
    (e : Feed.Entry) : Attempt Item := do
  match provider with
  | .youtube =>
    let url ← viaTemplate e.link template VideoLink.idParameter
    let posted ← readOrNow now .youtube (some e.published)
    return ⟨e.thumbnail, e.title, url, d.channel, d.channelLink ++ "/videos", some posted⟩
  | .rumble =>
    let posted ← readOrNow now .rumble (some e.published)
    return ⟨e.thumbnail, e.title, e.link, d.channel, d.channelLink, some posted⟩

def itemsOf (now : Nat → Stamp) (provider : Provider) (d : Feed.Document) (template : String) :
    List Feed.Entry → Attempt (List Item)
  | [] => return []
  | e :: es => do
    if e.isPresentable provider then
      let item ← toItem (now 0) provider d template e
      let items ← itemsOf (fun n => now (n + 1)) provider d template es
      return item :: items
    else
      Logged.say (.skippedEntry d.channel)
      itemsOf (fun n => now (n + 1)) provider d template es

def items (now : Nat → Stamp) (provider : Provider) (template : String) (d : Feed.Document) :
    Attempt (List Item) :=
  itemsOf now provider d template d.entries

/-- The items newest first. A comparison of two timestamps without an order is not caught. -/
def newestFirst (items : List Item) : Except Raised (List Item) :=
  (Item.insertAll? items).mapError Raised.noOrder

end Raising

end VideoWall
