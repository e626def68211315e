import VideoWall.Xml.Encoding

/-!
# The text of a page

The bytes of a page as text. The encoding is the declared one, or the first that fits of those that
pages tend to be in. The text starts with a declaration of its own, and of its document type only
harmless entities are left.
-/

namespace VideoWall.Feed

structure Source where
  text : List Char
  problem : Option String
  format : Option String
  /-- The entities that the document type declares, as far as they are harmless. -/
  entities : List (List Char × List Char)
deriving Repr

namespace Source

/-! ## 1. Encodings -/

/-- The encoding that the first bytes give away, and the bytes behind a byte order mark. -/
def opening (bytes : List UInt8) : Option String × List UInt8 :=
  match bytes with
  | 0x00 :: 0x00 :: 0xFE :: 0xFF :: rest => (some "utf-32be", rest)
  | 0xFF :: 0xFE :: 0x00 :: 0x00 :: rest => (some "utf-32le", rest)
  | 0xFE :: 0xFF :: 0x00 :: 0x00 :: _ => (none, bytes)
  | 0xFE :: 0xFF :: rest => (some "utf-16be", rest)
  | 0xFF :: 0xFE :: rest => (some "utf-16le", rest)
  | 0xEF :: 0xBB :: 0xBF :: rest => (some "utf-8", rest)
  | 0x4C :: 0x6F :: 0xA7 :: 0x94 :: _ => (some "cp037", bytes)
  | 0x00 :: 0x3C :: 0x00 :: 0x3F :: _ => (some "utf-16be", bytes)
  | 0x3C :: 0x00 :: 0x3F :: 0x00 :: _ => (some "utf-16le", bytes)
  | 0x00 :: 0x00 :: 0x00 :: 0x3C :: _ => (some "utf-32be", bytes)
  | 0x3C :: 0x00 :: 0x00 :: 0x00 :: _ => (some "utf-32le", bytes)
  | _ => (none, bytes)

/-- The characters of units of four bytes. -/
def readWide (isBigEndian : Bool) : List UInt8 → Option (List Char)
  | [] => some []
  | a :: b :: c :: d :: bs =>
    let bytes := if isBigEndian then [a, b, c, d] else [d, c, b, a]
    let n := bytes.foldl (fun n byte => n * 256 + byte.toNat) 0
    if n < 0x110000 && !(0xD800 ≤ n && n ≤ 0xDFFF) then
      (readWide isBigEndian bs).map (Char.ofNat n :: ·)
    else none
  | _ => none

def whole? (e : Xml.Encoding) (bytes : List UInt8) : Option (List Char) :=
  let d := e.decode bytes
  let isPaired : Bool := match e with
    | .utf16 isBigEndian => Xml.Encoding.arePaired (Xml.Encoding.units isBigEndian bytes).1
    | _ => true
  if d.ending == .complete && isPaired then some d.chars else none

def utf8Names : List String := ["utf_8", "utf8", "u8", "utf", "cp65001", "utf8_ucs2", "utf8_ucs4"]

/-- Whether an encoding of several bytes to a character, by its normal name, agrees with ASCII. -/
def extendsAscii (name : String) : Bool :=
  Text.CodePage.multiByteNames.contains name &&
    !(["u16", "u32", "u7", "unicode_1_1_utf_7", "unicodebigunmarked", "unicodelittleunmarked"].contains
      name) && !(name.startsWith "utf")

/-- Decodes bytes in the encoding of a name, if all of them stand for characters. -/
def decodeAs? (name : String) (bytes : List UInt8) : Option (List Char) :=
  let normal := String.ofList (Xml.Encoding.normalName false (name.toList.map Text.asciiLower))
  if utf8Names.contains normal then whole? .utf8 bytes
  else if normal == "utf_8_sig" then
    whole? .utf8 (match bytes with | 0xEF :: 0xBB :: 0xBF :: rest => rest | _ => bytes)
  else match normal with
    | "utf_16" | "utf16" | "u16" =>
      match bytes with
      | 0xFE :: 0xFF :: rest => whole? (.utf16 true) rest
      | 0xFF :: 0xFE :: rest => whole? (.utf16 false) rest
      | _ => whole? (.utf16 false) bytes
    | "utf_16be" | "utf_16_be" | "unicodebigunmarked" => whole? (.utf16 true) bytes
    | "utf_16le" | "utf_16_le" | "unicodelittleunmarked" => whole? (.utf16 false) bytes
    | "utf_32" | "utf32" | "u32" =>
      match bytes with
      | 0x00 :: 0x00 :: 0xFE :: 0xFF :: rest => readWide true rest
      | 0xFF :: 0xFE :: 0x00 :: 0x00 :: rest => readWide false rest
      | _ => readWide false bytes
    | "utf_32be" | "utf_32_be" => readWide true bytes
    | "utf_32le" | "utf_32_le" => readWide false bytes
    | _ =>
      match Text.CodePage.all.find? (·.names.contains normal) with
      | some p => whole? (.page p.upper.toList) bytes
      | none => if extendsAscii normal then whole? .ascii bytes else none

/-- The name between the quotes of the last `encoding=` of a line that an instruction's end
follows. -/
def lastEncoding? : List Char → Option (List Char)
  | [] => none
  | c :: cs =>
    match lastEncoding? cs with
    | some name => some name
    | none =>
      match Text.dropStart? "encoding=".toList (c :: cs) with
      | some (q :: rest) =>
        if q == '"' || q == '\'' then
          match Text.cutAt? (fun c => c == '"' || c == '\'') rest with
          | some (name, behind) => if Text.occurs ['?', '>'] behind then some name else none
          | none => none
        else none
      | _ => none

def declared? (mark : Option String) (bytes : List UInt8) : Option String := do
  let cs ← match mark with
    | some name => decodeAs? name bytes
    | none => some (bytes.map fun b => Char.ofNat b.toNat)
  let line ← Text.dropStart? ['<', '?'] (cs.takeWhile (· != '\n'))
  let name ← lastEncoding? line
  return String.ofList (name.map Text.asciiLower)

/-- Names of encodings with wide units that leave their order open. -/
def openWideNames : List String :=
  ["u16", "utf-16", "utf16", "utf_16", "u32", "utf-32", "utf32", "utf_32", "iso-10646-ucs-2",
    "iso-10646-ucs-4", "csucs4", "csunicode", "ucs-2", "ucs-4"]

/-- An encoding in the place of one that it includes. -/
def widened (name : String) : String :=
  if name == "gb2312" then "gb18030" else name

/-- The text of a page, the encoding that it should be in, and the one that it is in. -/
def decode (bytes : List UInt8) : List Char × String × String :=
  let (mark, bytes) := opening bytes
  let declared := (declared? mark bytes).map fun name =>
    widened (if openWideNames.contains name then mark.getD name else name)
  let expected := match declared with
    | some name => if name.isEmpty then "utf-8" else name
    | none => "utf-8"
  let candidates := [expected] ++ mark.toList ++ ["utf-8", "windows-1252", "iso-8859-2"]
  match candidates.findSome? fun name => (decodeAs? name bytes).map fun cs => (cs, name) with
  | some (cs, name) => (cs, expected, name)
  | none => ([], expected, expected)

/-! ## 2. Declarations -/

def declaration : List Char := "<?xml version='1.0' encoding='utf-8'?>".toList

/-- Puts the declaration in the place of the one that a text starts with, or on a line of its own in
front of it. -/
def redeclare (cs : List Char) : List Char :=
  let plain := declaration ++ '\n' :: cs
  match Text.dropStart? "<?xml".toList cs with
  | some rest =>
    match Text.cutAt? (· == '>') rest with
    | some (_, behind) => declaration ++ behind
    | none => plain
  | none => plain

def isAsciiSpace (c : Char) : Bool :=
  c == ' ' || (0x09 ≤ c.toNat && c.toNat ≤ 0x0D)

def isAsciiWord (c : Char) : Bool :=
  Text.isAsciiLetter c || Text.isAsciiDigit c || c == '_'

/-- Cuts a text in front of its first element, behind the bracket that opens it; nothing stands
before if there is no element. -/
def cutHead (cs : List Char) : List Char × List Char :=
  let rec go : List Char → Option (List Char × List Char)
    | '<' :: c :: rest =>
      if isAsciiWord c then some (['<'], c :: rest)
      else (go (c :: rest)).map fun (head, rest) => ('<' :: head, rest)
    | c :: rest => (go rest).map fun (head, rest) => (c :: head, rest)
    | [] => none
  (go cs).getD ([], cs)

/-- Takes the declarations out of a text that open with a word at the start of a line, blanks aside.
Gives what each says, and the text with `sub` in their places. -/
def takeOut (word sub : List Char) : (fuel : Nat) → (atLineStart : Bool) → List Char →
    List (List Char) × List Char
  | 0, _, cs => ([], cs)
  | _, _, [] => ([], [])
  | fuel + 1, atLineStart, c :: cs =>
    let found :=
      if atLineStart then
        (Text.dropStart? word ((c :: cs).dropWhile isAsciiSpace)).bind (Text.cutAt? (· == '>'))
      else none
    match found with
    | some (body, behind) =>
      let (bodies, rest) := takeOut word sub fuel false behind
      (body :: bodies, sub ++ rest)
    | none =>
      let (bodies, rest) := takeOut word sub fuel (c == '\n') cs
      (bodies, c :: rest)

/-- The name and the value of an entity, if it stands for plain text or for one character. -/
def harmless? (body : List Char) : Option (List Char × List Char) :=
  let rest := body.dropWhile isAsciiSpace
  let name := rest.takeWhile isAsciiWord
  let behind := rest.dropWhile isAsciiWord
  match behind.dropWhile isAsciiSpace with
  | '"' :: value =>
    if rest.length = body.length || name.isEmpty || !(behind.head?.any isAsciiSpace) then none
    else
      match Text.cutAt? (fun c => c == '&' || c == '"') value with
      | some (text, _) =>
        let isPlain := (value.drop text.length).head? == some '"'
        if isPlain then some (name, text)
        else match Text.dropStart? ['&', '#'] value with
          | some digits =>
            let word := digits.takeWhile isAsciiWord
            if !word.isEmpty && (digits.drop word.length).take 2 == [';', '"'] then
              some (name, '&' :: '#' :: word ++ [';'])
            else none
          | none => none
      | none => none
  | _ => none

def doctypeOf (entities : List (List Char)) : List Char :=
  "<!DOCTYPE feed [\n<!ENTITY".toList ++ ">\n<!ENTITY ".toList.intercalate entities ++
    ">\n]>".toList

def reduceDoctype (cs : List Char) : List Char × Option String × List (List Char × List Char) :=
  let (head, rest) := cutHead cs
  let (entities, head) := takeOut "<!ENTITY".toList [] (head.length + 1) true head
  let (doctypes, bare) := takeOut "<!DOCTYPE".toList [] (head.length + 1) true head
  let isNetscape := doctypes.head?.any fun d =>
    Text.occurs "netscape".toList (d.map Text.asciiLower)
  let format := if isNetscape then some "rss091n" else none
  let safe := if doctypes.length = 1 then entities.filter (harmless? · |>.isSome) else []
  if safe.isEmpty then (bare ++ rest, format, [])
  else
    let (_, head) := takeOut "<!DOCTYPE".toList (doctypeOf safe) (head.length + 1) true head
    (head ++ rest, format, safe.filterMap harmless?)

def ofBytes (bytes : List UInt8) : Source :=
  let (cs, expected, found) := decode bytes
  let problem :=
    if found == expected then none
    else some ("document declared as " ++ expected ++ ", but parsed as " ++ found)
  let (text, format, entities) := reduceDoctype (redeclare cs)
  ⟨text, problem, format, entities⟩

end Source

end VideoWall.Feed
