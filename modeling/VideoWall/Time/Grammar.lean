import VideoWall.Time.Layout

/-!
# The grammar of timestamps

Which texts show which date, time and offset in a layout, said without reading them from left to right:
a text is in a layout if it can be cut into pieces of the layout's kinds. Numbers are written with the
ten ASCII digits here.
-/

namespace VideoWall.Layout

/-- Whether a text consists of digits only, as many as asked for, that denote a number. -/
def Denotes (cs : List Char) (counts : List Nat) (n : Nat) : Prop :=
  cs.length ∈ counts ∧ (∀ c ∈ cs, Text.isAsciiDigit c = true) ∧
    Text.ofDigits (cs.map fun c => c.toNat - 0x30) = n

/-- Whether a text is a name of a list in any case of letters, the one at a place. -/
def Names (names : List (List Char)) (cs : List Char) (place : Nat) : Prop :=
  names[place]? = some (cs.map Text.asciiLower)

/-- Whether a text is the fraction of a second: a point and one to six digits, or nothing. -/
inductive IsFraction : List Char → Nat → Prop where
  | none : IsFraction [] 0
  | digits (cs : List Char) (n : Nat) : Denotes cs [1, 2, 3, 4, 5, 6] n →
      IsFraction ('.' :: cs) (n * Nat.pow 10 (6 - cs.length))

/-- Whether a text is the seconds of an offset with what separates them from the minutes, or nothing. -/
inductive IsOffsetSeconds (separator : List Char) : List Char → Nat → Prop where
  | none : IsOffsetSeconds separator [] 0
  | digits (cs fraction : List Char) (s f : Nat) : Denotes cs [2] s → s ≤ 59 →
      IsFraction fraction f →
      IsOffsetSeconds separator (separator ++ cs ++ fraction) (s * 1000000 + f)

/-- Whether a text is the size of an offset in microseconds. The same separator stands everywhere. -/
inductive IsOffsetSize : List Char → Nat → Prop where
  | parts (separator hours minutes seconds : List Char) (h m s : Nat) :
      (separator = [] ∨ separator = [':']) → Denotes hours [2] h → Denotes minutes [2] m →
      m ≤ 59 → IsOffsetSeconds separator seconds s →
      IsOffsetSize (hours ++ separator ++ minutes ++ seconds) ((h * 60 + m) * 60000000 + s)

inductive IsZone : List Char → Int → Prop where
  | universal : IsZone ['Z'] 0
  | ahead (cs : List Char) (n : Nat) : IsOffsetSize cs n → IsZone ('+' :: cs) n
  | behind (cs : List Char) (n : Nat) : IsOffsetSize cs n → IsZone ('-' :: cs) (-(n : Int))

/-- Whether a text is a piece of a layout, with what it does to the fields. -/
inductive Piece.Shows : Piece → List Char → Fields → Fields → Prop where
  | literal (x c : Char) (f : Fields) : Text.asciiLower c = Text.asciiLower x →
      Shows (.literal x) [c] f f
  | gap (cs : List Char) (f : Fields) : cs ≠ [] → (∀ c ∈ cs, Text.isBlank c = true) →
      Shows .gap cs f f
  | year (cs : List Char) (n : Nat) (f : Fields) : Denotes cs [4] n →
      Shows .year cs f { f with year := n }
  | month (cs : List Char) (n : Nat) (f : Fields) : Denotes cs [1, 2] n →
      Shows .month cs f { f with month := n }
  | day (cs : List Char) (n : Nat) (f : Fields) : Denotes cs [1, 2] n →
      Shows .day cs f { f with day := n }
  | filledDay (cs : List Char) (n : Nat) (f : Fields) : Denotes cs [1] n →
      Shows .day (' ' :: cs) f { f with day := n }
  | hour (cs : List Char) (n : Nat) (f : Fields) : Denotes cs [1, 2] n →
      Shows .hour cs f { f with hour := n }
  | minute (cs : List Char) (n : Nat) (f : Fields) : Denotes cs [1, 2] n →
      Shows .minute cs f { f with minute := n }
  | second (cs : List Char) (n : Nat) (f : Fields) : Denotes cs [1, 2] n →
      Shows .second cs f { f with second := n }
  | weekdayName (cs : List Char) (place : Nat) (f : Fields) : Names weekdayNames cs place →
      Shows .weekdayName cs f f
  | monthName (cs : List Char) (place : Nat) (f : Fields) : Names monthNames cs place →
      Shows .monthName cs f { f with month := place + 1 }
  | zone (cs : List Char) (n : Int) (f : Fields) : IsZone cs n →
      Shows .zone cs f { f with offset := n }

/-- Whether a text can be cut into the pieces of a layout, with what they do to the fields. -/
inductive Shows : Layout → List Char → Fields → Fields → Prop where
  | nil (f : Fields) : Shows [] [] f f
  | cons {p : Piece} {ps : Layout} {cs rest : List Char} {f g h : Fields} : p.Shows cs f g →
      Shows ps rest g h → Shows (p :: ps) (cs ++ rest) f h

/-- Whether fields are those of a timestamp, which are a date of the calendar, a time of day and an
offset of less than a day. -/
structure Fields.Tell (f : Fields) (t : Stamp) : Prop where
  year : t.date.year = f.year
  month : t.date.month = f.month
  day : t.date.day = f.day
  hour : t.time.hour = f.hour
  minute : t.time.minute = f.minute
  second : t.time.second = f.second
  microsecond : t.time.microsecond = 0
  offset : t.offset.map ZoneOffset.microseconds = some f.offset

/-- Whether a text shows a timestamp in one of a provider's layouts, blanks at the ends aside. -/
def IsStampText (provider : Provider) (raw : List Char) (t : Stamp) : Prop :=
  ∃ layout ∈ ofProvider provider, ∃ f : Fields, Shows layout (Text.trimChars raw) {} f ∧ f.Tell t

end VideoWall.Layout
