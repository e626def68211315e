import VideoWall.Text.Blank
import VideoWall.Text.Digit
import VideoWall.Text.Replace

/-!
# Tokens of markup as it is found

A forgiving reader of markup: whatever it is given, it finds tags, references and text in it. What
looks like a tag and never ends is text.
-/

namespace VideoWall.Markup

inductive Token where
  | text (cs : List Char)
  /-- A reference to a character by number, without its signs. -/
  | character (number : List Char)
  | entity (name : List Char)
  /-- A start tag with its name in lower case and its attributes; the flag says whether it ends with
  a slash. -/
  | start (name : List Char) (attributes : List (List Char × List Char)) (isClosed : Bool)
  | finish (name : List Char)
  | comment (cs : List Char)
  /-- Text that is not to be read as markup. -/
  | literal (cs : List Char)
  | other
deriving Repr

def isAlnum (c : Char) : Bool := Text.isAsciiLetter c || Text.isAsciiDigit c

def isTagChar (c : Char) : Bool :=
  isAlnum c || c == '-' || c == '_' || c == '.' || c == ':'

/-! ## 1. References -/

/-- Reads a reference to a character of which `&#` has been read; it needs its semicolon. -/
def characterReference? (cs : List Char) : Option (List Char × List Char) :=
  let number := match cs with
    | x :: rest =>
      if x == 'x' || x == 'X' then x :: rest.takeWhile fun c => (Text.hexValue? c).isSome
      else cs.takeWhile Text.isDigit
    | [] => []
  let enough := match number with
    | [] => false
    | [x] => Text.isDigit x
    | _ => true
  match cs.drop number.length with
  | ';' :: rest => if enough then some (number, rest) else none
  | _ => none

/-- The longest name at the start of a text that a character other than a letter or digit follows. -/
def entityName (cs : List Char) : List Char :=
  let isNameChar (c : Char) : Bool := isAlnum c || c == '-' || c == '.'
  let name := cs.takeWhile isNameChar
  match cs.drop name.length with
  | _ :: _ => name
  | [] =>
    -- At the end of the text the name has to leave a character behind that ends it.
    ((name.reverse.dropWhile isAlnum).drop 1).reverse

/-- Reads a reference to an entity of which the ampersand has been read. Without a semicolon it ends
where its name ends. -/
def entityReference? (cs : List Char) : Option (List Char × List Char) :=
  if !(cs.head?.any Text.isAsciiLetter) then none
  else
    let name := entityName cs
    if name.isEmpty then none
    else match cs.drop name.length with
      | ';' :: rest => some (name, rest)
      | rest => some (name, rest)

/-- How far an ampersand that starts no reference drags text along. -/
def looseReference (cs : List Char) : List Char :=
  match cs with
  | '#' :: rest => '#' :: rest.takeWhile Text.isAsciiDigit
  | c :: _ => if Text.isAsciiLetter c then cs.takeWhile isAlnum else []
  | [] => []

/-! ## 2. Tags -/

def endsValue (cs : List Char) : Bool :=
  match cs with
  | [] => false
  | c :: _ =>
    c == '>' || c == '/' || Text.isBlank c ||
      (let word := cs.takeWhile fun d => isAlnum d || d == '_' || 0x80 ≤ d.toNat
       !word.isEmpty && (cs.drop word.length).head? == some '=')

/-- What stands in front of the bracket that ends a tag, brackets in quoted values not counting. -/
def quotedTagBody? : (fuel : Nat) → List Char → Option (List Char × List Char)
  | 0, _ | _, [] => none
  | fuel + 1, c :: cs =>
    if c == '<' || c == '>' then some ([], c :: cs)
    else if c == '"' || c == '\'' then
      match Text.cutAt? (· == c) cs with
      | some (value, rest) =>
        if endsValue rest then
          (quotedTagBody? fuel rest).map fun (body, rest) => (c :: value ++ c :: body, rest)
        else none
      | none => none
    else (quotedTagBody? fuel cs).map fun (body, rest) => (c :: body, rest)

/-- What stands in front of the bracket that ends a tag. Quotes that do not fit are ignored, if the
bracket stands on the same line. -/
def tagBody? (cs : List Char) : Option (List Char × List Char) :=
  match quotedTagBody? (cs.length + 1) cs with
  | some found => some found
  | none =>
    let isBody (c : Char) : Bool := c != '<' && c != '>' && c != '\n'
    match cs.dropWhile isBody with
    | [] | '\n' :: _ => none
    | rest => some (cs.takeWhile isBody, rest)

def isAttributeStart (c : Char) : Bool := Text.isAsciiLetter c || c == '_'

def isBareValueChar (c : Char) : Bool :=
  isAlnum c || "[]-./,:;+*%?!&$()_#=~'\"@".toList.contains c

def attributeValue (cs : List Char) : List Char × List Char :=
  let cs := cs.dropWhile Text.isBlank
  let bare := (cs.takeWhile isBareValueChar, cs.dropWhile isBareValueChar)
  match cs with
  | q :: rest =>
    if q == '"' || q == '\'' then
      match Text.cutAt? (· == q) rest with
      | some found => found
      | none =>
        let (value, rest) := bare
        if 1 < value.length && value.getLast? == some q then (value.tail.dropLast, rest) else bare
    else bare
  | [] => ([], [])

/-- Reads an attribute. Without a value its name stands for it. -/
def attribute? (cs : List Char) : Option ((List Char × List Char) × List Char) :=
  let cs := cs.dropWhile Text.isBlank
  if !(cs.head?.any isAttributeStart) then none
  else
    let isNameChar (c : Char) : Bool := isAlnum c || c == '-' || c == ':' || c == '.' || c == '_'
    let name := cs.takeWhile isNameChar
    let rest := cs.dropWhile isNameChar
    let rest := if rest.head? == some '$' then rest.drop 1 else rest
    match rest.dropWhile Text.isBlank with
    | '=' :: behind =>
      let (value, rest) := attributeValue behind
      some ((name.map Text.asciiLower, value), rest)
    | _ => some ((name.map Text.asciiLower, name), rest)

def attributes (left : Nat) : (fuel : Nat) → List Char → List (List Char × List Char)
  | 0, _ => []
  | fuel + 1, cs =>
    if cs.length ≤ left then []
    else match attribute? cs with
      | some (a, rest) => a :: attributes left fuel rest
      | none => []

/-- Reads a start tag of which the opening bracket has been read, given the name of the last start
tag, which an empty tag repeats. -/
def startTag? (last cs : List Char) : Option (Token × List Char) :=
  (tagBody? cs).map fun (body, rest) =>
    let behind := if rest.head? == some '>' then rest.drop 1 else rest
    let isClosed := body.getLast? == some '/' && rest.head? == some '>'
    if body.isEmpty then (.start last [] false, behind)
    else
      let name := body.takeWhile isTagChar
      let attrs := attributes rest.length (cs.length + 1) (cs.drop name.length)
      (.start (name.map Text.asciiLower) attrs isClosed, behind)

def endTag? (cs : List Char) : Option (Token × List Char) :=
  (tagBody? cs).map fun (body, rest) =>
    (.finish ((Text.trimChars (body.drop 1)).map Text.asciiLower),
      if rest.head? == some '>' then rest.drop 1 else rest)

/-! ## 3. Other constructs -/

def comment? : (fuel : Nat) → List Char → Option (List Char × List Char)
  | 0, _ | _, [] => none
  | fuel + 1, c :: cs =>
    match Text.dropStart? ['-', '-'] (c :: cs) with
    | some rest =>
      match rest.dropWhile Text.isBlank with
      | '>' :: behind => some ([], behind)
      | _ => (comment? fuel cs).map fun (body, rest) => (c :: body, rest)
    | none => (comment? fuel cs).map fun (body, rest) => (c :: body, rest)

def behindBracket? (cs : List Char) : Option (List Char) :=
  (Text.cutAt? (· == '>') cs).map (·.2)

def literalMark : List Char := "<![CDATA[".toList

/-- Reads a declaration, which starts here. Literal text that never ends is lost. -/
def declaration? (cs : List Char) : Option (Token × List Char) :=
  match Text.dropStart? literalMark cs with
  | some rest =>
    match Text.cutAtText? [']', ']', '>'] rest with
    | some (body, behind) => some (.literal body, behind)
    | none => some (.other, [])
  | none => (behindBracket? cs).map (.other, ·)

/-- Reads what starts with an opening bracket; nothing if it never ends. -/
def bracket? (last : List Char) : List Char → Option (Token × List Char)
  | '!' :: '-' :: '-' :: cs =>
    (comment? (cs.length + 1) cs).map fun (body, rest) => (.comment body, rest)
  | '?' :: cs => (behindBracket? cs).map (.other, ·)
  | '!' :: cs => declaration? ('<' :: '!' :: cs)
  | '/' :: cs => endTag? ('/' :: cs)
  | c :: cs =>
    if c == '>' || Text.isAsciiLetter c then startTag? last (c :: cs)
    else some (.text ['<'], c :: cs)
  | [] => some (.text ['<'], [])

def ampersand (cs : List Char) : Token × List Char :=
  let character := match cs with
    | '#' :: rest => characterReference? rest
    | _ => none
  match character with
  | some (number, rest) => (.character number, rest)
  | none =>
    match entityReference? cs with
    | some (name, rest) => (.entity name, rest)
    | none =>
      let loose := looseReference cs
      (.text ('&' :: loose), cs.drop loose.length)

/-- Reads tokens one after the other. What looks like markup and never ends is text. -/
def tokensFrom : (fuel : Nat) → (last : List Char) → List Char → List Token
  | 0, _, _ | _, _, [] => []
  | fuel + 1, last, c :: cs =>
    if c == '<' then
      match bracket? last cs with
      | none => [.text (c :: cs)]
      | some (.start name attrs isClosed, rest) =>
        .start name attrs isClosed :: tokensFrom fuel name rest
      | some (t, rest) => t :: tokensFrom fuel last rest
    else if c == '&' then
      let (t, rest) := ampersand cs
      t :: tokensFrom fuel last rest
    else
      let isText (d : Char) : Bool := d != '<' && d != '&'
      .text ((c :: cs).takeWhile isText) :: tokensFrom fuel last ((c :: cs).dropWhile isText)

def tokens (cs : List Char) : List Token :=
  tokensFrom (cs.length + 1) [] cs

/-! ## 4. Repairs -/

def voidElements : List String :=
  ["area", "base", "basefont", "br", "col", "command", "embed", "frame", "hr", "img", "input",
    "isindex", "keygen", "link", "meta", "param", "source", "track", "wbr"]

/-- An empty tag without attributes, spelled out: with an end tag where the element has one. -/
def spelledOut (name : List Char) : List Char :=
  if voidElements.contains (String.ofList name) then '<' :: name ++ [' ', '/', '>']
  else '<' :: name ++ '>' :: '<' :: '/' :: name ++ ['>']

/-- Reads an empty tag without attributes of which the opening bracket has been read. -/
def shortTag? (cs : List Char) : Option (List Char × List Char) :=
  let isPart (c : Char) : Bool := c != '<' && c != '>' && !Text.isBlank c
  let word := cs.takeWhile isPart
  match (cs.drop word.length).dropWhile Text.isBlank with
  | '>' :: rest =>
    -- The slash may be the last character of the word.
    if (cs.drop word.length).head? == some '>' && 1 < word.length && word.getLast? == some '/' then
      some (word.dropLast, rest)
    else none
  | '/' :: '>' :: rest => if word.isEmpty then none else some (word, rest)
  | _ => none

/-- Whether a declaration starts here that is a document type, a comment or in brackets; `<!` has
been read. -/
def startsDeclaration (cs : List Char) : Bool :=
  (cs.take 7).map Text.asciiLower == "doctype".toList || cs.take 2 == ['-', '-'] ||
    cs.head? == some '['

/-- Repairs a text before its tokens are read: declarations of no known kind become text, empty tags
are spelled out. -/
def repairTags : (fuel : Nat) → List Char → List Char
  | 0, cs => cs
  | _, [] => []
  | fuel + 1, c :: cs =>
    if c != '<' then c :: repairTags fuel cs
    else match shortTag? cs with
      | some (name, rest) => spelledOut name ++ repairTags fuel rest
      | none => c :: repairTags fuel cs

def repairDeclarations : List Char → List Char
  | '<' :: '!' :: cs =>
    if startsDeclaration cs then '<' :: '!' :: repairDeclarations cs
    else "&lt;!".toList ++ repairDeclarations cs
  | c :: cs => c :: repairDeclarations cs
  | [] => []

/-- Repairs a text before its tokens are read; quotes written by number are written plainly. -/
def repaired (cs : List Char) : List Char :=
  let cs := repairDeclarations cs
  let cs := repairTags (cs.length + 1) cs
  let cs := Text.replaceAll "&#39;".toList ['\''] cs
  Text.replaceAll "&#34;".toList ['"'] cs

end VideoWall.Markup
