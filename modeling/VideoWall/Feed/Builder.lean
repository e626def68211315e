import VideoWall.Feed.Draft
import VideoWall.Feed.Vocabulary
import VideoWall.Markup.Clean
import VideoWall.Xml.Encoding

/-!
# Building a feed

What is known while the elements of a feed start and end: the drafts, the elements that collect text,
and where in the feed reading is. Text belongs to the innermost element that collects any.
-/

namespace VideoWall.Feed

structure Collector where
  tag : String
  isFact : Bool
  /-- The pieces of its text, last one first. -/
  pieces : List (List Char)
deriving Repr

/-- What is known while a feed is built. -/
structure Builder where
  /-- Whether markup is read as it is found, references in text being left alone. -/
  isLenient : Bool
  format : String := ""
  /-- The short names that qualifiers stand for. -/
  qualifiers : List (String × String) := []
  /-- The namespaces in use, by short name or qualifier. -/
  spaces : List (String × String) := []
  depth : Int := 0
  /-- How deep the title stood that counts so far; negative without one. -/
  titleDepth : Int := -1
  inFeed : Bool := false
  inEntry : Bool := false
  inTextInput : Bool := false
  inPicture : Bool := false
  inAuthor : Bool := false
  inContributor : Bool := false
  inPublisher : Bool := false
  inSource : Bool := false
  inProse : Int := 0
  type : Option String := none
  /-- Whether the identifier of the entry is its link. -/
  idIsLink : Bool := false
  collectors : List Collector := []
  feed : Draft := {}
  picture : Option Draft := none
  textInput : Draft := {}
  source : Draft := {}
  /-- The entries, last one first. -/
  entries : List Draft := []
deriving Repr

/-- Sets the value of a key in a list of pairs, in its place if the key is there. -/
def put (pairs : List (String × String)) (key value : String) : List (String × String) :=
  if (pairs.lookup key).isSome then pairs.map fun (k, v) => (k, if k == key then value else v)
  else pairs ++ [(key, value)]

namespace Builder

/-! ## 1. Places -/

def describe (b : Builder) (f : Draft → Draft) : Builder :=
  if b.inSource then { b with source := f b.source }
  else match b.inPicture, b.picture with
    | true, some p => { b with picture := some (f p) }
    | _, _ =>
      if b.inTextInput then { b with textInput := f b.textInput }
      else match b.inEntry, b.entries with
        | true, e :: es => { b with entries := f e :: es }
        | _, _ => { b with feed := f b.feed }

def describesFeed (b : Builder) : Bool :=
  !b.inSource && !(b.inPicture && b.picture.isSome) && !b.inTextInput &&
    !(b.inEntry && !b.entries.isEmpty)

def isInside (b : Builder) : Bool := b.inFeed || b.inEntry || b.inSource

def lower (s : String) : String := String.ofList (s.toList.map Text.asciiLower)

def declare (b : Builder) (qualifier space : String) : Builder :=
  let key := lower space
  let b := if b.format.isEmpty then { b with format := (formatOf qualifier key).getD "" } else b
  let userland := "http://backend.userland.com/rss"
  let isUserland := Text.occurs "backend.userland.com/rss".toList key.toList
  let (space, key) := if isUserland then (userland, userland) else (space, key)
  match namespaces.lookup key with
  | some short =>
    { b with
      qualifiers := if qualifier.isEmpty then b.qualifiers else put b.qualifiers qualifier short
      spaces := put b.spaces short space }
  | none => { b with spaces := put b.spaces qualifier space }

/-! ## 2. Text -/

def collect (b : Builder) (tag : String) (isFact : Bool) : Builder :=
  { b with collectors := ⟨tag, isFact, []⟩ :: b.collectors }

def addPiece (b : Builder) (cs : List Char) : Builder :=
  match b.collectors with
  | [] => b
  | c :: rest => { b with collectors := { c with pieces := cs :: c.pieces } :: rest }

/-- Adds text, which is escaped where it stands among elements of markup. -/
def addText (b : Builder) (cs : List Char) : Builder :=
  b.addPiece (if b.type == some xhtmlType then Markup.escapeLiteral cs else cs)

/-- Whether a piece is an element's start that has an end. -/
def opensPiece (cs : List Char) : Bool :=
  cs.head? == some '<' && !(['>', '/'].isPrefixOf cs.reverse)

/-- Whether an element stays open over pieces that start `depth` levels inside of it. -/
def staysOpen : (depth : Int) → List (List Char) → Bool
  | _, [] => true
  | depth, p :: ps =>
    if ['<', '/'].isPrefixOf p then
      if depth - 1 = 0 then false else staysOpen (depth - 1) ps
    else staysOpen (if opensPiece p then depth + 1 else depth) ps

/-- Drops blank pieces from the start, a last one being kept. -/
def dropBlankPieces : List (List Char) → List (List Char)
  | p :: q :: ps => if p.all Text.isBlank then dropBlankPieces (q :: ps) else p :: q :: ps
  | ps => ps

/-- Takes off an element `div` that encloses all pieces. -/
def unwrapped (pieces : List (List Char)) : List (List Char) :=
  let pieces := dropBlankPieces (dropBlankPieces pieces.reverse).reverse
  match pieces with
  | p :: rest =>
    let isDiv := p == "<div>".toList || "<div ".toList.isPrefixOf p
    if isDiv && pieces.getLast? == some "</div>".toList && staysOpen 0 pieces.dropLast then
      rest.dropLast
    else pieces
  | [] => []

def withoutExtraSlashes (cs : List Char) : List Char :=
  let isSchemeChar (c : Char) : Bool := Markup.isAlnum c || c == '+' || c == ',' || c == '-' || c == '.'
  let scheme := cs.takeWhile isSchemeChar
  if !(cs.head?.any Text.isAsciiLetter) then cs
  else match cs.drop scheme.length with
    | ':' :: '/' :: '/' :: rest => scheme ++ ':' :: '/' :: '/' :: rest.dropWhile (· == '/')
    | _ => cs

def addressTags : List String := ["link", "id", "url", "href"]

def numberedReferences : List (String × String) :=
  [("&#60;", "&lt;"), ("&#x3c;", "&lt;"), ("&#x3C;", "&lt;"), ("&#62;", "&gt;"),
    ("&#x3e;", "&gt;"), ("&#x3E;", "&gt;"), ("&#38;", "&amp;"), ("&#x26;", "&amp;"),
    ("&#34;", "&quot;"), ("&#x22;", "&quot;"), ("&#39;", "&apos;"), ("&#x27;", "&apos;")]

def namedReferences : List (String × String) :=
  [("&lt;", "<"), ("&gt;", ">"), ("&amp;", "&"), ("&quot;", "\""), ("&apos;", "'"),
    ("&#x2f;", "/"), ("&#x2F;", "/")]

def replaceEach (pairs : List (String × String)) (cs : List Char) : List Char :=
  pairs.foldl (fun cs (pattern, sub) => Text.replaceAll pattern.toList sub.toList cs) cs

/-- Whether the type of the text is a vocabulary of XML; so it is without a type. -/
def isXmlType (b : Builder) : Bool :=
  match b.type with
  | some t => t.endsWith "xml"
  | none => true

/-- Replaces the references in collected text; where the text is of a vocabulary of XML they are only
brought into one form. -/
def resolved (b : Builder) (cs : List Char) : List Char :=
  let cs := replaceEach numberedReferences cs
  if b.isXmlType then cs else replaceEach namedReferences cs

/-- Mends text that was taken for Latin-1 although it was UTF-8, and controls that stand for
characters of the page Windows-1252. -/
def mended (cs : List Char) : List Char :=
  let cs :=
    if cs.all (·.toNat < 0x100) then
      (Text.Utf8.decode? (cs.map fun c => c.toNat.toUInt8)).getD cs
    else cs
  cs.map fun c => (Text.CodePage.control? c.toNat).getD c

/-- The type that a title turns out to have: outside of Atom plain text may be markup. -/
def titleType (b : Builder) (cs : List Char) : Option String :=
  if !(b.format.startsWith "atom") && b.type == some plainType && Markup.looksLikeMarkup cs then
    some htmlType
  else b.type

def cleanTitle (type : Option String) (cs : List Char) : List Char :=
  match type.getD htmlType with
  | t =>
    if t == htmlType then Markup.clean false cs
    else if t == xhtmlType then Markup.clean true cs
    else cs

/-- An address without the semicolons that stand behind the names of its parameters. -/
def withoutSemicolons : (fuel : Nat) → List Char → List Char
  | 0, cs => cs
  | _, [] => []
  | fuel + 1, c :: cs =>
    let isPart (d : Char) : Bool := Markup.isAlnum d || d == '_'
    let word := cs.takeWhile isPart
    match c == '&' && !word.isEmpty, cs.drop word.length with
    | true, ';' :: rest => '&' :: word ++ withoutSemicolons fuel rest
    | _, _ => c :: withoutSemicolons fuel cs

def plainLink (cs : List Char) : List Char := withoutSemicolons (cs.length + 1) cs

/-- States a fact where it belongs. A title behind one that counts states nothing. -/
def state (b : Builder) (tag : String) (cs : List Char) : Builder :=
  if tag == "title" && -1 < b.titleDepth && b.titleDepth ≤ b.depth then b
  else if b.inEntry && !b.inSource then
    match b.entries with
    | [] => b
    | e :: es =>
      if tag == "link" then
        if b.inPicture then b
        else
          let link := plainLink (Text.replaceAll "&amp;".toList ['&'] cs)
          { b with entries := e.set tag (String.ofList link) :: es }
      else { b with entries := e.setAt b.depth tag (String.ofList cs) :: es }
  else if b.inFeed || b.inSource then
    b.describe (·.set tag (String.ofList (if tag == "link" then plainLink cs else cs)))
  else b

/-- Ends the collection of text for an element, if it is the innermost one, and gives the text. -/
def finishText (b : Builder) (tag : String) : Option (List Char) × Builder :=
  match b.collectors with
  | [] => (none, b)
  | c :: rest =>
    if c.tag != tag then (none, b)
    else
      let pieces := c.pieces.reverse
      let isWrapped := b.format == "atom10" && b.type == some xhtmlType
      let text := Text.trimChars (if isWrapped then unwrapped pieces else pieces).flatten
      let b := { b with collectors := rest }
      if !c.isFact then (some text, b)
      else
        let isAddress := addressTags.contains tag && (tag != "id" || b.idIsLink)
        let text := if isAddress then withoutExtraSlashes text else text
        let text := if b.isLenient then b.resolved text else text
        let type := if tag == "title" then b.titleType text else b.type
        let text := mended (if tag == "title" then cleanTitle type text else text)
        (some text, { b with type }.state tag text)

def startProse (b : Builder) (tag type : String) (isFact : Bool) : Builder :=
  { b with inProse := b.inProse + 1, type := some (typeOf type) }.collect tag isFact

def finishProse (b : Builder) (tag : String) : Option (List Char) × Builder :=
  let (text, b) := b.finishText tag
  (text, { b with inProse := b.inProse - 1, type := none })

end Builder

end VideoWall.Feed
