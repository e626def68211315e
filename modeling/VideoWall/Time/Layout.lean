import VideoWall.Provider
import VideoWall.Text.Blank
import VideoWall.Text.Digit
import VideoWall.Text.Replace
import VideoWall.Time.Stamp

/-!
# Timestamp layouts

The layouts in which the providers write timestamps, and their reader. A layout is a list of pieces;
a text is in a layout if its pieces stand one behind the other and nothing is left over.
-/

namespace VideoWall

inductive Layout.Piece where
  /-- A character, in either case. -/
  | literal (c : Char)
  /-- One or more blanks. -/
  | gap
  | year
  | month
  | day
  | hour
  | minute
  | second
  /-- The short name of a day of the week; it need not fit the date. -/
  | weekdayName
  | monthName
  | zone
deriving DecidableEq, Repr

abbrev Layout := List Layout.Piece

namespace Layout

structure Fields where
  year : Nat := 0
  month : Nat := 0
  day : Nat := 0
  hour : Nat := 0
  minute : Nat := 0
  second : Nat := 0
  /-- The offset in microseconds; a layout without a zone means universal time. -/
  offset : Int := 0
deriving DecidableEq, Repr

def weekdayNames : List (List Char) :=
  [['m', 'o', 'n'], ['t', 'u', 'e'], ['w', 'e', 'd'], ['t', 'h', 'u'], ['f', 'r', 'i'],
    ['s', 'a', 't'], ['s', 'u', 'n']]

def monthNames : List (List Char) :=
  [['j', 'a', 'n'], ['f', 'e', 'b'], ['m', 'a', 'r'], ['a', 'p', 'r'], ['m', 'a', 'y'],
    ['j', 'u', 'n'], ['j', 'u', 'l'], ['a', 'u', 'g'], ['s', 'e', 'p'], ['o', 'c', 't'],
    ['n', 'o', 'v'], ['d', 'e', 'c']]

/-! ## 1. Numbers -/

/-- Which one- and two-digit forms a numeric piece has. -/
structure NumberForm where
  alone : Char → Bool
  together : Char → Char → Bool

def between (low high : Char) (c : Char) : Bool :=
  low.toNat ≤ c.toNat && c.toNat ≤ high.toNat

def monthForm : NumberForm where
  alone := between '1' '9'
  together a b := (a == '1' && between '0' '2' b) || (a == '0' && between '1' '9' b)

def dayForm : NumberForm where
  alone := between '1' '9'
  together a b := (a == '3' && between '0' '1' b) || between '1' '2' a ||
    (a == '0' && between '1' '9' b)

def hourForm : NumberForm where
  alone _ := true
  together a b := (a == '2' && between '0' '3' b) || between '0' '1' a

def minuteForm : NumberForm where
  alone _ := true
  together a _ := between '0' '5' a

/-- Seconds go from 0 to 61 in the layout; a time of day has none beyond 59. -/
def secondForm : NumberForm where
  alone _ := true
  together a b := (a == '6' && between '0' '1' b) || between '0' '5' a

/-- Reads one digit, or two if a second one follows. -/
def number? (form : NumberForm) : List Char → Option (Nat × List Char)
  | [] => none
  | a :: cs =>
    match Text.digitValue? a with
    | none => none
    | some x =>
      match cs with
      | [] => if form.alone a then some (x, []) else none
      | b :: rest =>
        match Text.digitValue? b with
        | none => if form.alone a then some (x, b :: rest) else none
        | some y => if form.together a b then some (10 * x + y, rest) else none

/-- Reads a day, which may be filled with one space in front of a single digit. -/
def day? : List Char → Option (Nat × List Char)
  | ' ' :: a :: cs =>
    if between '1' '9' a then (Text.digitValue? a).map (·, cs) else none
  | cs => number? dayForm cs

def year? : List Char → Option (Nat × List Char)
  | a :: b :: c :: d :: cs => do
    let w ← Text.digitValue? a
    let x ← Text.digitValue? b
    let y ← Text.digitValue? c
    let z ← Text.digitValue? d
    return (((w * 10 + x) * 10 + y) * 10 + z, cs)
  | _ => none

def name? (names : List (List Char)) : List Char → Option (Nat × List Char)
  | a :: b :: c :: cs =>
    (names.findIdx? (· == [Text.asciiLower a, Text.asciiLower b, Text.asciiLower c])).map (·, cs)
  | _ => none

/-! ## 2. Zones -/

/-- Two digits, the first of them below six in ASCII. -/
def sixty? : List Char → Option (Nat × List Char)
  | a :: b :: cs =>
    if between '0' '5' a then do
      let x ← Text.digitValue? a
      let y ← Text.digitValue? b
      return (10 * x + y, cs)
    else none
  | _ => none

def allDigits? (cs : List Char) : Option (List Nat) :=
  cs.mapM Text.digitValue?

/-- A fraction of a second of one to six digits, to the end of the text, in microseconds. -/
def fraction? : List Char → Option Nat
  | [] => some 0
  | '.' :: cs => do
    let ds ← allDigits? cs
    if 1 ≤ ds.length ∧ ds.length ≤ 6 then
      return Text.ofDigits (ds ++ List.replicate (6 - ds.length) 0)
    else none
  | _ => none

def offsetSeconds? (colons : Bool) : List Char → Option Nat
  | [] => some 0
  | c :: cs => do
    let (s, rest) ← if colons then (if c == ':' then sixty? cs else none) else sixty? (c :: cs)
    let f ← fraction? rest
    return s * 1000000 + f

/-- The size of an offset behind its sign, to the end of the text, in microseconds. Colons stand
everywhere or nowhere. -/
def offsetSize? : List Char → Option Nat
  | a :: b :: cs => do
    let x ← Text.digitValue? a
    let y ← Text.digitValue? b
    let colons := cs.head? == some ':'
    let (m, rest) ← sixty? (if colons then cs.drop 1 else cs)
    let s ← offsetSeconds? colons rest
    return ((10 * x + y) * 60 + m) * 60000000 + s
  | _ => none

/-- An offset to the end of the text: `Z`, or a sign and its size. -/
def zone? : List Char → Option Int
  | ['Z'] => some 0
  | '+' :: cs => (offsetSize? cs).map fun n => (n : Int)
  | '-' :: cs => (offsetSize? cs).map fun n => -(n : Int)
  | _ => none

/-! ## 3. Layouts -/

def Piece.read? (f : Fields) (cs : List Char) : Piece → Option (Fields × List Char)
  | .literal x =>
    match cs with
    | c :: rest => if Text.asciiLower c == Text.asciiLower x then some (f, rest) else none
    | [] => none
  | .gap =>
    match cs with
    | c :: rest => if Text.isBlank c then some (f, rest.dropWhile Text.isBlank) else none
    | [] => none
  | .year => (year? cs).map fun (n, rest) => ({ f with year := n }, rest)
  | .month => (number? monthForm cs).map fun (n, rest) => ({ f with month := n }, rest)
  | .day => (day? cs).map fun (n, rest) => ({ f with day := n }, rest)
  | .hour => (number? hourForm cs).map fun (n, rest) => ({ f with hour := n }, rest)
  | .minute => (number? minuteForm cs).map fun (n, rest) => ({ f with minute := n }, rest)
  | .second => (number? secondForm cs).map fun (n, rest) => ({ f with second := n }, rest)
  | .weekdayName => (name? weekdayNames cs).map fun (_, rest) => (f, rest)
  | .monthName => (name? monthNames cs).map fun (n, rest) => ({ f with month := n + 1 }, rest)
  | .zone => (zone? cs).map fun n => ({ f with offset := n }, [])

/-- Reads the pieces of a layout one behind the other, to the end of the text. -/
def readOnto? (f : Fields) (cs : List Char) : Layout → Option Fields
  | [] => if cs.isEmpty then some f else none
  | p :: ps => (p.read? f cs).bind fun (f, rest) => readOnto? f rest ps

def Fields.stamp? (f : Fields) : Option Stamp := do
  let date ← Date.of? f.year f.month f.day
  let time ← TimeOfDay.of? f.hour f.minute f.second 0
  let offset ← ZoneOffset.of? f.offset
  return ⟨date, time, some offset⟩

def stamp? (layout : Layout) (cs : List Char) : Option Stamp :=
  (readOnto? {} cs layout).bind Fields.stamp?

def isoLayout : Layout :=
  [.year, .literal '-', .month, .literal '-', .day, .literal 'T', .hour, .literal ':', .minute,
    .literal ':', .second, .zone]

def mailStart : Layout :=
  [.weekdayName, .literal ',', .gap, .day, .gap, .monthName, .gap, .year, .gap, .hour, .literal ':',
    .minute, .literal ':', .second, .gap]

def mailGmtLayout : Layout :=
  mailStart ++ [.literal 'G', .literal 'M', .literal 'T']

def mailZoneLayout : Layout :=
  mailStart ++ [.zone]

def ofProvider : Provider → List Layout
  | .youtube => [isoLayout]
  | .rumble => [mailGmtLayout, mailZoneLayout]

end Layout

namespace Stamp

/-- The text that stands for a date that its writer did not know. -/
def invalidDateText : String := "Invalid Date"

/-- The timestamp that a provider's text shows, blanks at the ends aside. -/
def read? (provider : Provider) (raw : String) : Option Stamp :=
  let text := Text.trim raw
  if text == invalidDateText then none
  else (Layout.ofProvider provider).findSome? (Layout.stamp? · text.toList)

end Stamp

end VideoWall
