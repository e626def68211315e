import VideoWall.Text.Digit
import VideoWall.Text.Replace
import VideoWall.Xml.Character

/-!
# Tokens of XML

The tokens that the content of an element is made of, each read from the start of a text. A token
that cannot go on stops at the character where it fails, or at the end of the text.
-/

namespace VideoWall.Xml

inductive Stop where
  /-- The text goes on with a character that does not fit. -/
  | invalid (rest : List Char)
  /-- The text ends where a character of a name or of a text may follow. -/
  | ended
  /-- The text ends where only certain signs may follow. -/
  | endedBeforeSign
  /-- The text ends before a word of known length. -/
  | endedBeforeWord
deriving Repr

abbrev Scan (α : Type) := Except Stop (α × List Char)

def skipSpace (cs : List Char) : List Char := cs.dropWhile isSpace

def takeName (cs : List Char) : List Char × List Char :=
  (cs.takeWhile isNameChar, cs.dropWhile isNameChar)

/-! ## 1. References -/

inductive Reference where
  | entity (name : List Char)
  | character (code : Nat)
deriving Repr

def scanDigits (base : Nat) (value? : Char → Option Nat) : (acc : Nat) → List Char → Scan Nat
  | _, [] => .error .endedBeforeSign
  | acc, c :: cs =>
    match value? c with
    | some d => scanDigits base value? (acc * base + d) cs
    | none => if c == ';' then .ok (acc, cs) else .error (.invalid (c :: cs))

def asciiDigit? (c : Char) : Option Nat :=
  if Text.isAsciiDigit c then some (c.toNat - 0x30) else none

/-- Reads a character reference of which the ampersand and the number sign have been read. -/
def scanCharacter : List Char → Scan Reference
  | [] | ['x'] => .error .endedBeforeSign
  | 'x' :: c :: cs =>
    if (Text.hexValue? c).isSome then
      (scanDigits 16 Text.hexValue? 0 (c :: cs)).map fun (n, rest) => (.character n, rest)
    else .error (.invalid (c :: cs))
  | c :: cs =>
    if Text.isAsciiDigit c then
      (scanDigits 10 asciiDigit? 0 (c :: cs)).map fun (n, rest) => (.character n, rest)
    else .error (.invalid (c :: cs))

def scanReference : List Char → Scan Reference
  | [] => .error .ended
  | '#' :: cs => scanCharacter cs
  | c :: cs =>
    if isNameStart c then
      match takeName (c :: cs) with
      | (_, []) => .error .ended
      | (name, ';' :: rest) => .ok (.entity name, rest)
      | (_, rest) => .error (.invalid rest)
    else .error (.invalid (c :: cs))

/-! ## 2. Comments and instructions -/

def scanCommentBody : List Char → Except Stop (List Char)
  | [] | ['-'] => .error .ended
  | ['-', '-'] => .error .endedBeforeSign
  | '-' :: '-' :: '>' :: rest => .ok rest
  | '-' :: '-' :: c :: rest => .error (.invalid (c :: rest))
  | c :: rest => if isXmlChar c then scanCommentBody rest else .error (.invalid (c :: rest))

/-- Reads a comment of which `<!-` has been read. -/
def scanComment : List Char → Except Stop (List Char)
  | [] => .error .endedBeforeSign
  | '-' :: rest => scanCommentBody rest
  | rest => .error (.invalid rest)

def scanInstructionBody : List Char → Scan (List Char)
  | [] | ['?'] => .error .ended
  | '?' :: '>' :: rest => .ok ([], rest)
  | c :: rest =>
    if isXmlChar c then
      (scanInstructionBody rest).map fun (body, rest) => (c :: body, rest)
    else .error (.invalid (c :: rest))

inductive Instruction where
  | other
  /-- The declaration of the document, with what stands behind its target. -/
  | declaration (body : List Char)
deriving Repr

/-- Reads an instruction of which `<?` has been read. Its target may be `xml`, for the declaration,
but not that word in other letters. -/
def scanInstruction : List Char → Scan Instruction
  | [] => .error .ended
  | c :: cs =>
    if !isNameStart c then .error (.invalid (c :: cs))
    else
      let (target, rest) := takeName (c :: cs)
      let isDeclaration := target == ['x', 'm', 'l']
      let isReserved := target.map Text.asciiLower == ['x', 'm', 'l'] && !isDeclaration
      let kind (body : List Char) := if isDeclaration then .declaration body else .other
      match rest with
      | [] => .error .ended
      | d :: behind =>
        if isSpace d then
          if isReserved then .error (.invalid rest)
          else (scanInstructionBody behind).map fun (body, rest) => (kind (d :: body), rest)
        else if d == '?' && !isReserved then
          match behind with
          | [] => .error .endedBeforeSign
          | '>' :: rest => .ok (kind [], rest)
          | rest => .error (.invalid rest)
        else .error (.invalid rest)

/-! ## 3. Tags -/

structure RawName where
  qualifier : Option (List Char)
  base : List Char
deriving DecidableEq, Repr

def RawName.chars (n : RawName) : List Char :=
  match n.qualifier with
  | some q => q ++ ':' :: n.base
  | none => n.base

/-- Reads the name of a tag or an attribute, which starts here. The tag has to go on behind it. -/
def scanRawName (cs : List Char) : Scan RawName :=
  let (first, rest) := takeName cs
  match rest with
  | [] | [':'] => .error .ended
  | ':' :: c :: behind =>
    if isNameStart c then
      let (base, rest) := takeName (c :: behind)
      match rest with
      | [] => .error .ended
      | ':' :: _ => .error (.invalid rest)
      | _ => .ok (⟨some first, base⟩, rest)
    else .error (.invalid (c :: behind))
  | _ => .ok (⟨none, first⟩, rest)

structure RawAttribute where
  name : RawName
  value : List Char
  nameRest : List Char
  valueRest : List Char
deriving Repr

structure RawTag where
  name : RawName
  attributes : List RawAttribute
  isEmpty : Bool
deriving Repr

/-- Reads the value of an attribute up to its closing quote. References in it must be complete. -/
def scanValue (quote : Char) : List Char → Scan (List Char)
  | [] => .error .ended
  | c :: cs =>
    if c == quote then .ok ([], cs)
    else if c == '<' || !isXmlChar c then .error (.invalid (c :: cs))
    else if c == '&' then
      match scanReference cs with
      | .error stop => .error stop
      | .ok _ => (scanValue quote cs).map fun (v, rest) => (c :: v, rest)
    else (scanValue quote cs).map fun (v, rest) => (c :: v, rest)

def scanAssignment (cs : List Char) : Scan (List Char × List Char) :=
  match skipSpace cs with
  | [] => .error .endedBeforeSign
  | '=' :: rest =>
    match skipSpace rest with
    | [] => .error .endedBeforeSign
    | q :: rest =>
      if q == '"' || q == '\'' then
        (scanValue q rest).map fun (v, behind) => ((v, rest), behind)
      else .error (.invalid (q :: rest))
  | rest => .error (.invalid rest)

def scanEmptyEnd : List Char → Except Stop (List Char)
  | [] => .error .endedBeforeSign
  | '>' :: rest => .ok rest
  | rest => .error (.invalid rest)

/-- Reads attributes up to the end of the tag, and says whether the element is empty. Attributes are
kept apart by white space. -/
def scanAttributes : (fuel : Nat) → (afterSpace : Bool) → List Char →
    Except Stop ((List RawAttribute × Bool) × List Char)
  | 0, _, _ => .error .ended
  | fuel + 1, afterSpace, cs =>
    match cs with
    | [] => .error (if afterSpace then .ended else .endedBeforeSign)
    | '>' :: rest => .ok (([], false), rest)
    | '/' :: rest => (scanEmptyEnd rest).map fun rest => (([], true), rest)
    | c :: rest =>
      if isSpace c then scanAttributes fuel true rest
      else if !afterSpace || !isNameStart c then .error (.invalid cs)
      else do
        let (name, behind) ← scanRawName cs
        let ((value, valueRest), behind) ← scanAssignment behind
        let ((attributes, isEmpty), behind) ← scanAttributes fuel false behind
        return ((⟨name, value, cs, valueRest⟩ :: attributes, isEmpty), behind)

def scanStartTag (cs : List Char) : Except Stop (RawTag × List Char) := do
  let (name, rest) ← scanRawName cs
  let ((attributes, isEmpty), rest) ← scanAttributes (rest.length + 1) false rest
  return (⟨name, attributes, isEmpty⟩, rest)

def scanEndTagEnd (cs : List Char) : Except Stop (List Char) :=
  match skipSpace cs with
  | [] => .error (if cs.isEmpty then .ended else .endedBeforeSign)
  | '>' :: rest => .ok rest
  | rest => .error (.invalid rest)

/-- Reads an end tag of which `</` has been read. Its name is compared as written. -/
def scanEndTag : List Char → Scan (List Char)
  | [] => .error .ended
  | c :: cs =>
    if isNameStart c then
      let isPart (d : Char) : Bool := isNameChar d || d == ':'
      let name := (c :: cs).takeWhile isPart
      (scanEndTagEnd ((c :: cs).dropWhile isPart)).map fun rest => (name, rest)
    else .error (.invalid (c :: cs))

/-! ## 4. Content -/

inductive ContentToken where
  | text (cs : List Char)
  | reference (r : Reference)
  | cdata
  | comment
  | instruction (i : Instruction)
  | startTag (t : RawTag)
  /-- An end tag with its name and the text from the name on. -/
  | endTag (name nameRest : List Char)
deriving Repr

def cdataWord : List Char := ['C', 'D', 'A', 'T', 'A', '[']

def scanWord : (word : List Char) → List Char → Except Stop (List Char)
  | [], cs => .ok cs
  | _ :: _, [] => .error .endedBeforeWord
  | w :: ws, c :: cs => if w == c then scanWord ws cs else .error (.invalid (c :: cs))

def startsWithCdataEnd : List Char → Bool
  | ']' :: ']' :: '>' :: _ => true
  | _ => false

def takeText : List Char → List Char × List Char
  | [] => ([], [])
  | c :: cs =>
    if c == '<' || c == '&' || c == '\r' || c == '\n' || !isXmlChar c ||
        startsWithCdataEnd (c :: cs) then ([], c :: cs)
    else
      let (text, rest) := takeText cs
      (c :: text, rest)

def scanMarkup : List Char → Scan ContentToken
  | [] => .error .ended
  | '!' :: rest =>
    match rest with
    | [] => .error .endedBeforeSign
    | '-' :: rest => (scanComment rest).map fun rest => (.comment, rest)
    | '[' :: rest =>
      -- The bytes of the word have to be there before any of them is looked at.
      if (String.ofList (rest.take cdataWord.length)).utf8ByteSize < cdataWord.length then
        .error .endedBeforeWord
      else (scanWord cdataWord rest).map fun rest => (.cdata, rest)
    | rest => .error (.invalid rest)
  | '?' :: rest => (scanInstruction rest).map fun (i, rest) => (.instruction i, rest)
  | '/' :: rest => (scanEndTag rest).map fun (name, behind) => (.endTag name rest, behind)
  | c :: rest =>
    if isNameStart c then (scanStartTag (c :: rest)).map fun (t, rest) => (.startTag t, rest)
    else .error (.invalid (c :: rest))

/-- Reads a token of content from a text that is not empty. A line break of any kind is a line
feed. -/
def scanContent : List Char → Scan ContentToken
  | [] => .error .ended
  | '<' :: rest => scanMarkup rest
  | '&' :: rest => (scanReference rest).map fun (r, rest) => (.reference r, rest)
  | '\r' :: '\n' :: rest | '\r' :: rest | '\n' :: rest => .ok (.text ['\n'], rest)
  | ']' :: ']' :: '>' :: rest => .error (.invalid ('>' :: rest))
  | c :: rest =>
    if isXmlChar c then
      let (text, rest) := takeText rest
      .ok (.text (c :: text), rest)
    else .error (.invalid (c :: rest))

inductive CdataToken where
  | text (cs : List Char)
  | close
deriving Repr

def takeCdataText (cs : List Char) : List Char × List Char :=
  let isText (c : Char) : Bool := c != ']' && c != '\r' && c != '\n' && isXmlChar c
  (cs.takeWhile isText, cs.dropWhile isText)

def scanCdata : List Char → Scan CdataToken
  | [] | ['\r'] | [']'] | [']', ']'] => .error .ended
  | ']' :: ']' :: '>' :: rest => .ok (.close, rest)
  | '\r' :: '\n' :: rest | '\r' :: rest | '\n' :: rest => .ok (.text ['\n'], rest)
  | c :: rest =>
    if isXmlChar c then
      let (text, rest) := takeCdataText rest
      .ok (.text (c :: text), rest)
    else .error (.invalid (c :: rest))

end VideoWall.Xml
