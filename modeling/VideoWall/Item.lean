import VideoWall.Time.Stamp

/-!
# Items and their order

An item is a video as the wall shows it. Items are ordered newest first, equal instants keeping their
places, where their timestamps can be compared at all.
-/

namespace VideoWall

structure Item where
  thumbnailUrl : String
  title : String
  url : String
  author : String
  authorUrl : String
  /-- When it was posted, where that is known. -/
  posted : Option Stamp
deriving DecidableEq, Repr, Inhabited

inductive Incomparable where
  /-- One timestamp carries an offset and the other does not. -/
  | mixed
  /-- At least one timestamp is missing; the flags say which of the two are known. -/
  | unknown (leftKnown rightKnown : Bool)
deriving DecidableEq, Repr

namespace Item

inductive Kind where
  | zoned
  | zoneless
  | unknown
deriving DecidableEq, Repr

def kind (i : Item) : Kind :=
  match i.posted with
  | some t => if t.isZoned then .zoned else .zoneless
  | none => .unknown

/-- The instant of an item; zero where it is not known. -/
def instant (i : Item) : Int :=
  match i.posted with
  | some t => t.instant
  | none => 0

def notOlder (a b : Item) : Bool :=
  b.instant ≤ a.instant

/-- The items newest first; equal instants keep their places. -/
def sortByInstant (items : List Item) : List Item :=
  items.mergeSort notOlder

def areComparable (items : List Item) : Bool :=
  items.length ≤ 1 || items.all (·.kind == .zoned) || items.all (·.kind == .zoneless)

/-! ## Why a list has no order -/

def clash? : Kind → Kind → Option Incomparable
  | .zoned, .zoned | .zoneless, .zoneless => none
  | .zoned, .zoneless | .zoneless, .zoned => some .mixed
  | a, b => some (.unknown (a != .unknown) (b != .unknown))

theorem clash?_self {k : Kind} (h : k ≠ .unknown) : clash? k k = none := by
  cases k with
  | zoned => rfl
  | zoneless => rfl
  | unknown => exact absurd rfl h

def neighbourClash? (previous : Item) : List Item → Option Incomparable
  | [] => none
  | i :: rest => (clash? i.kind previous.kind) <|> (neighbourClash? i rest)

/-- Why a list of items has no order: the first clash of neighbours, from the end of the list on. -/
def firstClash? (items : List Item) : Option Incomparable :=
  match items.reverse with
  | [] => none
  | i :: rest => neighbourClash? i rest

def newestFirst (items : List Item) : Except Incomparable (List Item) :=
  if areComparable items then .ok (sortByInstant items)
  else .error ((firstClash? items).getD .mixed)

end Item

end VideoWall
