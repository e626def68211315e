import VideoWall.Item
import VideoWall.Sorting

/-!
# Sorting by comparisons that may fail

The order of items as it comes about by comparing two items at a time: each comparison may find that
two timestamps have no order, and then the whole sort fails. One sort takes the items from the last to
the first and moves each behind all that are newer (`insertAll?`); and any stable sort can find the order
(`newestFirstBy`).
-/

namespace VideoWall.Item

def older? (a b : Item) : Except Incomparable Bool :=
  match clash? a.kind b.kind with
  | some why => .error why
  | none => .ok (a.instant < b.instant)

def insert? (i : Item) : List Item → Except Incomparable (List Item)
  | [] => .ok [i]
  | other :: rest =>
    match older? i other with
    | .error why => .error why
    | .ok true => (insert? i rest).map (other :: ·)
    | .ok false => .ok (i :: other :: rest)

/-- The items newest first, by inserting them one after the other. -/
def insertAll? : List Item → Except Incomparable (List Item)
  | [] => .ok []
  | i :: rest =>
    match insertAll? rest with
    | .error why => .error why
    | .ok sorted => insert? i sorted

def olderAt? (items : List Item) (i j : Fin items.length) : Except Incomparable Bool :=
  older? (items.get i) (items.get j)

/-- The items oldest first, as a sort finds them; equal instants keep their places. -/
def oldestFirstBy (s : StableSort) (items : List Item) : Except Incomparable (List Item) :=
  ((s.sort items.length).attempt (olderAt? items)).map fun order => order.map items.get

/-- The items newest first, as a sort finds them. It sorts the list read backwards, oldest first; read
backwards again, equal instants keep their places. -/
def newestFirstBy (s : StableSort) (items : List Item) : Except Incomparable (List Item) :=
  (oldestFirstBy s items.reverse).map List.reverse

theorem older?_of_kind_eq {a b : Item} (h : a.kind = b.kind) (ha : a.kind ≠ .unknown) :
    older? a b = .ok (decide (a.instant < b.instant)) := by
  rw [older?, ← h, clash?_self ha]

end VideoWall.Item
