import VideoWall.Text.Digit
import VideoWall.Text.Replace
import VideoWall.Text.Utf8

/-!
# Query parameters

The names and values of a query, with their escapes undone: a plus sign is a space, and a percent sign
with two hexadecimal digits is a byte of UTF-8.
-/

namespace VideoWall.Url

/-- The bytes of a run of ASCII characters with its percent escapes undone. -/
def unescapeBytes : List Char → List UInt8
  | '%' :: a :: b :: cs =>
    match Text.hexValue? a, Text.hexValue? b with
    | some x, some y => (16 * x + y).toUInt8 :: unescapeBytes cs
    | _, _ => '%'.toNat.toUInt8 :: unescapeBytes (a :: b :: cs)
  | c :: cs => c.toNat.toUInt8 :: unescapeBytes cs
  | [] => []

/-- Undoes the escapes of a text of which the ASCII characters in `run` have been read; the bytes of
each run of ASCII characters are decoded on their own. -/
def unescapeRuns (run : List Char) : List Char → List Char
  | [] => Text.Utf8.decodeLossy (unescapeBytes run)
  | c :: cs =>
    if c.toNat < 0x80 then unescapeRuns (run ++ [c]) cs
    else Text.Utf8.decodeLossy (unescapeBytes run) ++ c :: unescapeRuns [] cs

def unescape (cs : List Char) : List Char :=
  unescapeRuns [] (cs.map fun c => if c == '+' then ' ' else c)

/-- The parameter in a piece of a query; a piece without a value has none. -/
def parameter? (piece : List Char) : Option (List Char × List Char) :=
  match Text.cutAt? (· == '=') piece with
  | some (name, value) => if value.isEmpty then none else some (unescape name, unescape value)
  | none => none

def parameters (query : List Char) : List (List Char × List Char) :=
  (Text.splitAt '&' query).filterMap parameter?

def firstValue (name query : List Char) : List Char :=
  match (parameters query).find? (·.1 == name) with
  | some (_, value) => value
  | none => []

/-! ## Escaping -/

def isUnreserved (c : Char) : Bool :=
  Text.isAsciiLetter c || Text.isAsciiDigit c || c == '_' || c == '.' || c == '-' || c == '~'

def upperHexChar (d : Nat) : Char :=
  if d < 10 then Char.ofNat (0x30 + d) else Char.ofNat (0x37 + d)

def escapeByte (b : UInt8) : List Char :=
  ['%', upperHexChar (b.toNat / 16), upperHexChar (b.toNat % 16)]

def escapeChar (c : Char) : List Char :=
  if isUnreserved c then [c] else (Text.Utf8.encodeChar c).flatMap escapeByte

def escape (cs : List Char) : List Char :=
  cs.flatMap escapeChar

def queryOf (params : List (List Char × List Char)) : List Char :=
  ['&'].intercalate (params.map fun (name, value) => escape name ++ '=' :: escape value)

end VideoWall.Url
