import VideoWall.Number.Binary64
import VideoWall.Text.Blank
import VideoWall.Text.Replace

/-!
# Numbers written by hand

Readers for integers and decimal numbers as a person writes them into a configuration or on a command
line: digits of any script, single underscores between digits, and blanks around the number.
-/

namespace VideoWall.Number

/-- Integers of more digits than this are refused. -/
def digitLimit : Nat := 4300

def isMargin (c : Char) : Bool :=
  Text.isBlank c && !(0x1C ≤ c.toNat && c.toNat ≤ 0x1F)

def withoutMargins (cs : List Char) : List Char :=
  Text.dropTrailing isMargin (cs.dropWhile isMargin)

/-- Whether every underscore stands between two digits, given whether a digit came just before. -/
def underscoresAreInside : (afterDigit : Bool) → List Char → Bool
  | _, [] => true
  | afterDigit, '_' :: cs =>
    afterDigit && (cs.head?.any Text.isDigit) && underscoresAreInside false cs
  | _, c :: cs => underscoresAreInside (Text.isDigit c) cs

def withoutUnderscores? (cs : List Char) : Option (List Char) :=
  if underscoresAreInside false cs then some (cs.filter (· != '_')) else none

def takeSign : List Char → Bool × List Char
  | '-' :: cs => (true, cs)
  | '+' :: cs => (false, cs)
  | cs => (false, cs)

def takeDigits : List Char → List Nat × List Char
  | [] => ([], [])
  | c :: cs =>
    match Text.digitValue? c with
    | some d => let (ds, rest) := takeDigits cs; (d :: ds, rest)
    | none => ([], c :: cs)

def integer? (s : String) : Option Int := do
  let cs ← withoutUnderscores? (withoutMargins s.toList)
  let (negative, cs) := takeSign cs
  match takeDigits cs with
  | (ds, []) =>
    if ds.isEmpty || digitLimit < ds.length then none
    else some (if negative then -(Text.ofDigits ds : Int) else Text.ofDigits ds)
  | _ => none

def exponent? : List Char → Option Int
  | [] => some 0
  | c :: cs =>
    if c == 'e' || c == 'E' then
      let (negative, cs) := takeSign cs
      match takeDigits cs with
      | (ds, []) =>
        if ds.isEmpty then none
        else some (if negative then -(Text.ofDigits ds : Int) else Text.ofDigits ds)
      | _ => none
    else none

/-- Reads the names of the numbers that are not finite, in any case of letters. -/
def named? (negative : Bool) (cs : List Char) : Option Binary64 :=
  match String.ofList (cs.map Text.asciiLower) with
  | "inf" | "infinity" => some (.infinite negative)
  | "nan" => some .nan
  | _ => none

def unsigned? (negative : Bool) (cs : List Char) : Option Binary64 :=
  let (whole, rest) := takeDigits cs
  let (fraction, rest) := match rest with
    | '.' :: behind => takeDigits behind
    | _ => ([], rest)
  if whole.isEmpty && fraction.isEmpty then none
  else (exponent? rest).map fun e =>
    Binary64.ofDecimal negative (Text.ofDigits (whole ++ fraction)) (e - fraction.length)

def decimal? (s : String) : Option Binary64 := do
  let cs ← withoutUnderscores? (withoutMargins s.toList)
  let (negative, cs) := takeSign cs
  (unsigned? negative cs) <|> (named? negative cs)

end VideoWall.Number
