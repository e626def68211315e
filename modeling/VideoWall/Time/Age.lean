import VideoWall.Number.Binary64
import VideoWall.Time.Stamp

/-!
# Ages

The short label that says how long ago something was posted: whole days, hours or minutes, or `now`.
-/

namespace VideoWall

inductive Age.Unit where
  | minute
  | hour
  | day
deriving DecidableEq, Repr

inductive Age where
  /-- Less than a minute, or not in the past. -/
  | now
  | past (count : Nat) (unit : Age.Unit)
deriving DecidableEq, Repr

namespace Age

def Unit.seconds : Unit → Nat
  | minute => 60
  | hour => 3600
  | day => 86400

def Unit.letter : Unit → Char
  | minute => 'm'
  | hour => 'h'
  | day => 'd'

/-- The units, from the greatest to the least. -/
def units : List Unit := [.day, .hour, .minute]

/-- The age of a number of seconds, in the greatest unit that fits. -/
def ofSeconds (s : Nat) : Age :=
  if s < 60 then now
  else match units.find? fun u => u.seconds ≤ s with
    | some u => past (s / u.seconds) u
    | none => now

def label : Age → String
  | now => "now"
  | past n unit => String.ofList (Text.decimal n ++ [unit.letter])

def length : Age → Nat
  | now => 0
  | past n unit => n * unit.seconds

/-- The whole seconds of a number of microseconds, which are rounded to binary64 before the fraction
is dropped. -/
def wholeSeconds (microseconds : Int) : Int :=
  (Binary64.ofIntRatio microseconds 1000000).truncate

/-- The age at `now` of what was posted at `posted`; a future time counts as now. -/
def since (posted now : Stamp) : Except ClockMismatch Age :=
  (now.difference posted).map fun d => ofSeconds (wholeSeconds d).toNat

end Age

end VideoWall
