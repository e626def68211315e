import VideoWall.Text.Digit
import VideoWall.Time.Calendar

/-!
# Timestamps

A wall-clock reading with an optional zone offset. Two timestamps that carry an offset are compared
by the instant they denote, two without one by their wall clocks, and a mixed pair not at all.
-/

namespace VideoWall

structure TimeOfDay where
  hour : Nat
  minute : Nat
  second : Nat
  microsecond : Nat
  hour_lt : hour < 24
  minute_lt : minute < 60
  second_lt : second < 60
  microsecond_lt : microsecond < 1000000
deriving DecidableEq, Repr

namespace TimeOfDay

def of? (hour minute second microsecond : Nat) : Option TimeOfDay :=
  if h : hour < 24 ∧ minute < 60 ∧ second < 60 ∧ microsecond < 1000000 then
    some ⟨hour, minute, second, microsecond, h.1, h.2.1, h.2.2.1, h.2.2.2⟩
  else none

def midnight : TimeOfDay :=
  ⟨0, 0, 0, 0, by decide, by decide, by decide, by decide⟩

instance : Inhabited TimeOfDay := ⟨midnight⟩

def toMicroseconds (t : TimeOfDay) : Nat :=
  ((t.hour * 60 + t.minute) * 60 + t.second) * 1000000 + t.microsecond

/-- The time that lies `n` microseconds behind midnight; whole days are dropped. -/
def ofMicroseconds (n : Nat) : TimeOfDay :=
  ⟨n / 3600000000 % 24, n / 60000000 % 60, n / 1000000 % 60, n % 1000000,
    Nat.mod_lt _ (by decide), Nat.mod_lt _ (by decide), Nat.mod_lt _ (by decide),
    Nat.mod_lt _ (by decide)⟩

end TimeOfDay

def microsecondsPerDay : Nat := 86400000000

/-- How far a wall clock is ahead of universal time, in microseconds: less than a day. -/
structure ZoneOffset where
  microseconds : Int
  natAbs_lt : microseconds.natAbs < microsecondsPerDay
deriving DecidableEq, Repr

namespace ZoneOffset

def of? (microseconds : Int) : Option ZoneOffset :=
  if h : microseconds.natAbs < microsecondsPerDay then some ⟨microseconds, h⟩ else none

def utc : ZoneOffset := ⟨0, by decide⟩

/-- An offset as text: sign, hours and minutes, then seconds and microseconds where there are any. -/
def toChars (z : ZoneOffset) : List Char :=
  let n := z.microseconds.natAbs
  let seconds := n / 1000000
  let micro := n % 1000000
  let minutes := (if z.microseconds < 0 then '-' else '+') ::
    Text.padded 2 (seconds / 3600) ++ ':' :: Text.padded 2 (seconds / 60 % 60)
  if micro ≠ 0 then
    minutes ++ ':' :: Text.padded 2 (seconds % 60) ++ '.' :: Text.padded 6 micro
  else if seconds % 60 ≠ 0 then minutes ++ ':' :: Text.padded 2 (seconds % 60)
  else minutes

end ZoneOffset

/-- A point in time as a wall clock shows it. -/
structure Stamp where
  date : Date
  time : TimeOfDay
  offset : Option ZoneOffset
deriving DecidableEq, Repr, Inhabited

inductive ClockMismatch where
  | mixed
deriving DecidableEq, Repr

namespace Stamp

/-- Whether the timestamp carries an offset, so that it denotes an instant. -/
def isZoned (t : Stamp) : Bool := t.offset.isSome

/-- The wall clock, as microseconds since the start of the calendar. -/
def wallClock (t : Stamp) : Int :=
  (t.date.toDays * microsecondsPerDay + t.time.toMicroseconds : Nat)

/-- The instant, as microseconds since the start of the calendar in universal time; without an offset
the wall clock stands for it. -/
def instant (t : Stamp) : Int :=
  match t.offset with
  | some z => t.wallClock - z.microseconds
  | none => t.wallClock

def difference (later earlier : Stamp) : Except ClockMismatch Int :=
  if later.isZoned = earlier.isZoned then .ok (later.instant - earlier.instant)
  else .error .mixed

def ofInstant? (instant : Int) : Option Stamp :=
  match instant with
  | .negSucc _ => none
  | .ofNat n =>
    (Date.ofDays? (n / microsecondsPerDay)).map fun d =>
      ⟨d, .ofMicroseconds (n % microsecondsPerDay), some .utc⟩

/-- The same instant on a clock of universal time; a clock without an offset is taken to show it. -/
def toUtc (t : Stamp) : Stamp :=
  (ofInstant? t.instant).getD { t with offset := some .utc }

def dateChars (d : Date) : List Char :=
  Text.padded 4 d.year ++ '-' :: Text.padded 2 d.month ++ '-' :: Text.padded 2 d.day

/-- A time of day as text; microseconds are left out where there are none. -/
def timeChars (t : TimeOfDay) : List Char :=
  Text.padded 2 t.hour ++ ':' :: Text.padded 2 t.minute ++ ':' :: Text.padded 2 t.second ++
    (if t.microsecond = 0 then [] else '.' :: Text.padded 6 t.microsecond)

def charsWith (separator : Char) (t : Stamp) : List Char :=
  dateChars t.date ++ separator :: timeChars t.time ++
    (match t.offset with | some z => z.toChars | none => [])

def isoText (t : Stamp) : String := String.ofList (t.charsWith 'T')

def spacedText (t : Stamp) : String := String.ofList (t.charsWith ' ')

end Stamp

end VideoWall
