import VideoWall.Text.CodePage
import VideoWall.Text.Digit
import VideoWall.Text.Replace
import VideoWall.Text.Utf8

/-!
# Encodings of documents

How the bytes of a document become characters, which encoding the first bytes give away, and which
encoding a name stands for.
-/

namespace VideoWall.Xml

inductive Ending where
  | complete
  /-- A byte sequence stands for no character. -/
  | malformed
  | cut
  /-- Half a unit is left over. -/
  | halfUnit
deriving DecidableEq, Repr

structure Decoded where
  chars : List Char
  ending : Ending
deriving Repr

namespace Decoded

def push (c : Char) (d : Decoded) : Decoded := ⟨c :: d.chars, d.ending⟩

def stop (e : Ending) : Decoded := ⟨[], e⟩

end Decoded

/-- An encoding of characters as bytes. -/
inductive Encoding where
  | utf8
  | utf16 (isBigEndian : Bool)
  | latin1
  | ascii
  /-- One byte to a character, with the characters of the upper half. -/
  | page (upper : List Char)
deriving Repr

namespace Encoding

/-- The number of bytes to a character of ASCII. -/
def unit : Encoding → Nat
  | utf16 _ => 2
  | utf8 | latin1 | ascii | page _ => 1

def isBytewise : Encoding → Bool
  | latin1 | ascii | page _ => true
  | utf8 | utf16 _ => false

/-! ## 1. Decoding -/

def byteIn (low high : Nat) (b : UInt8) : Bool :=
  low ≤ b.toNat && b.toNat ≤ high

def tailBits (b : UInt8) : Nat := b.toNat % 64

/-- Decodes UTF-8. A character is cut off if bytes are missing at the end. -/
def decodeUtf8 : List UInt8 → Decoded
  | [] => .stop .complete
  | b :: bs =>
    if b.toNat < 0x80 then (decodeUtf8 bs).push (Char.ofNat b.toNat)
    else match Text.Utf8.lead? b, bs with
      | some (1, acc, low, high), b1 :: bs =>
        if byteIn low high b1 then (decodeUtf8 bs).push (Char.ofNat (acc * 64 + tailBits b1))
        else .stop .malformed
      | some (2, acc, low, high), b1 :: b2 :: bs =>
        if byteIn low high b1 && byteIn 0x80 0xBF b2 then
          (decodeUtf8 bs).push (Char.ofNat ((acc * 64 + tailBits b1) * 64 + tailBits b2))
        else .stop .malformed
      | some (3, acc, low, high), b1 :: b2 :: b3 :: bs =>
        if byteIn low high b1 && byteIn 0x80 0xBF b2 && byteIn 0x80 0xBF b3 then
          (decodeUtf8 bs).push
            (Char.ofNat (((acc * 64 + tailBits b1) * 64 + tailBits b2) * 64 + tailBits b3))
        else .stop .malformed
      | some _, _ => .stop .cut
      | none, _ => .stop .malformed

/-- The units of UTF-16, and whether half a unit is left over. -/
def units (isBigEndian : Bool) : List UInt8 → List Nat × Bool
  | [] => ([], false)
  | [_] => ([], true)
  | a :: b :: bs =>
    let unit := if isBigEndian then a.toNat * 256 + b.toNat else b.toNat * 256 + a.toNat
    let (us, half) := units isBigEndian bs
    (unit :: us, half)

def arePaired : List Nat → Bool
  | [] => true
  | u :: us =>
    let isFollowed := match us with
      | v :: _ => 0xDC00 ≤ v && v ≤ 0xDFFF
      | [] => false
    (!(0xD800 ≤ u && u ≤ 0xDBFF) || isFollowed) && arePaired us

/-- Decodes the units of UTF-16. Whatever follows the first half of a character is taken for its second
half. -/
def decodeUnits (atEnd : Ending) : List Nat → Decoded
  | [] => .stop atEnd
  | u :: us =>
    if 0xD800 ≤ u && u ≤ 0xDBFF then
      match us with
      | v :: us =>
        (decodeUnits atEnd us).push (Char.ofNat (0x10000 + (u - 0xD800) * 1024 + v % 1024))
      | [] => .stop .cut
    else if 0xDC00 ≤ u && u ≤ 0xDFFF then .stop .malformed
    else (decodeUnits atEnd us).push (Char.ofNat u)

def decodeBytes (char? : UInt8 → Option Char) : List UInt8 → Decoded
  | [] => .stop .complete
  | b :: bs =>
    match char? b with
    | some c => (decodeBytes char? bs).push c
    | none => .stop .malformed

def pageChar? (upper : List Char) (b : UInt8) : Option Char :=
  if b.toNat < 0x80 then some (Char.ofNat b.toNat)
  else match upper[b.toNat - 0x80]? with
    | some c => if c == '\uFFFD' then none else some c
    | none => none

def decode : Encoding → List UInt8 → Decoded
  | utf8, bs => decodeUtf8 bs
  | utf16 isBigEndian, bs =>
    let (us, half) := units isBigEndian bs
    decodeUnits (if half then .halfUnit else .complete) us
  | latin1, bs => decodeBytes (fun b => some (Char.ofNat b.toNat)) bs
  | ascii, bs => decodeBytes (pageChar? []) bs
  | page upper, bs => decodeBytes (pageChar? upper) bs

/-! ## 2. Recognition -/

inductive Opening where
  | encoded (e : Encoding) (hasMark : Bool) (bytes : List UInt8)
  /-- There is a single byte, which could be the start of several things. -/
  | tooShort
deriving Repr

/-- Recognises the encoding of a document by its first bytes; UTF-8 unless they say otherwise. -/
def recognise (bytes : List UInt8) : Opening :=
  match bytes with
  | [] => .encoded .utf8 false []
  | [b] =>
    if [0xFE, 0xFF, 0xEF, 0x00, 0x3C].contains b.toNat then .tooShort else .encoded .utf8 false [b]
  | 0xEF :: 0xBB :: rest =>
    match rest with
    | [] => .tooShort
    | 0xBF :: behind => .encoded .utf8 true behind
    | _ => .encoded .utf8 false bytes
  | 0xFE :: 0xFF :: rest => .encoded (.utf16 true) true rest
  | 0xFF :: 0xFE :: rest => .encoded (.utf16 false) true rest
  | 0x00 :: _ :: _ => .encoded (.utf16 true) false bytes
  | _ :: 0x00 :: _ => .encoded (.utf16 false) false bytes
  | _ => .encoded .utf8 false bytes

/-! ## 3. Names -/

inductive NameFault where
  | unknown (name : String)
  /-- The name stands for a transformation that is no encoding of text. -/
  | notText (name : String)
  | multiByte
  /-- The encoding does not go on behind bytes that stand for no character. -/
  | strict (name : String)
  | refusing (name : String)
  /-- The encoding breaks off at the first byte beyond ASCII. -/
  | asciiOnly
  /-- The encoding does not agree with ASCII. -/
  | foreign
  /-- The encoding has units of another size or order than the document. -/
  | conflicting
deriving DecidableEq, Repr

/-- The name in lower case, with one underscore for each run of other characters than letters,
digits and points between its parts. -/
def normalName : (pending : Bool) → List Char → List Char
  | _, [] => []
  | pending, c :: cs =>
    if Text.isAsciiLetter c || Text.isAsciiDigit c || c == '.' then
      let rest := Text.asciiLower c :: normalName false cs
      if pending then '_' :: rest else rest
    else normalName true cs

/-- The name that an encoding is listed under: a normal name as it stands, or with underscores for its
points. -/
def listedName (name : String) : String :=
  let plain := String.ofList (name.toList.map fun c => if c == '.' then '_' else c)
  if Text.CodePage.all.any (·.names.contains name) || Text.CodePage.fixedNames.contains plain then name
  else plain

def ofNormalName (name shown : String) : Except NameFault Encoding :=
  let listed := listedName name
  match Text.CodePage.all.find? (·.names.contains listed) with
  | some p => if p.keepsAsciiLow then .ok (.page p.upper.toList) else .error .foreign
  | none =>
    if Text.CodePage.escapingNames.contains listed then .ok latin1
    else if Text.CodePage.foreignNames.contains listed then .error .foreign
    else if Text.CodePage.multiByteNames.contains listed then .error .multiByte
    else if Text.CodePage.transformationNames.contains listed then .error (.notText shown)
    else if listed == "idna" then .error (.strict shown)
    else if listed == "undefined" then .error (.refusing shown)
    else if listed == "punycode" then .error .asciiOnly
    else .error (.unknown shown)

/-- The encoding of a name, for a document whose first bytes have been taken for another one. -/
def ofName (recognised : Encoding) (name : List Char) : Except NameFault Encoding :=
  let isWide := match recognised with
    | utf16 _ => true
    | _ => false
  let narrow (e : Encoding) : Except NameFault Encoding :=
    if isWide then .error .conflicting else .ok e
  match String.ofList (name.map Text.asciiLower) with
  | "utf-8" => narrow utf8
  | "iso-8859-1" => narrow latin1
  | "us-ascii" => narrow ascii
  | "utf-16" => if isWide then .ok recognised else .error .conflicting
  | "utf-16be" =>
    match recognised with
    | utf16 true => .ok recognised
    | _ => .error .conflicting
  | "utf-16le" =>
    match recognised with
    | utf16 false => .ok recognised
    | _ => .error .conflicting
  | _ => ofNormalName (String.ofList (normalName false name)) (String.ofList name)

end Encoding

end VideoWall.Xml
