import VideoWall.Feed.Elements
import VideoWall.Feed.Source
import VideoWall.Xml.Reader

/-!
# Reading feeds

A page is read as a document of XML. If it is not well-formed, the fault is noted and the page is read
once more as the markup that is found in it.
-/

namespace VideoWall.Feed

/-! ## 1. Well-formed pages -/

/-- How pages are read: entities that are not read are passed over. -/
def pageOptions : Xml.ReaderOptions := ⟨false, ' '⟩

/-- The name by which an element is known: the short name of its namespace, or the qualifier that has
first been bound to the namespace, in front of its own. -/
def elementTag (b : Builder) (n : Xml.Name) : String :=
  let key := Builder.lower n.space
  let isUserland := Text.occurs "backend.userland.com/rss".toList key.toList
  let short := if isUserland then "" else (namespaces.lookup key).getD ""
  let qualifier :=
    if !short.isEmpty then some short
    else if n.space.isEmpty then none
    else (b.spaces.find? fun (q, space) => !q.isEmpty && space == n.space).map (·.1)
  Builder.lower (match qualifier with
    | some q => q ++ ":" ++ n.base
    | none => n.base)

def attributesOf (attributes : List (Xml.Name × String)) : List (String × String) :=
  let named := attributes.map fun (n, value) =>
    let short := (namespaces.lookup (Builder.lower n.space)).getD ""
    (if short.isEmpty then n.base else short ++ ":" ++ n.base, value)
  let written := attributes.map fun (n, value) =>
    (if n.qualifier.isEmpty then n.base else n.qualifier ++ ":" ++ n.base, value)
  named ++ written

def Builder.event (b : Builder) : Xml.Event → Builder
  | .text cs => b.addText cs
  | .finish n => b.finishElement (elementTag b n)
  | .start n attributes declared =>
    let b := declared.foldl
      (fun b (qualifier, space) => if space.isEmpty then b else b.declare qualifier space) b
    b.startElement (elementTag b n) (attributesOf attributes)

def ofEvents (events : List Xml.Event) : Builder :=
  events.foldl Builder.event { isLenient := false }

/-! ## 2. Other pages -/

def keptNumbers : List String :=
  ["34", "38", "39", "60", "62", "x22", "x26", "x27", "x3c", "x3e"]

def keptNames : List String := ["lt", "gt", "quot", "amp", "apos"]

/-- The text of a reference to a character, or the reference itself where it might be markup. -/
def characterText (number : List Char) : List Char :=
  let number := number.map Text.asciiLower
  if keptNumbers.contains (String.ofList number) then '&' :: '#' :: number ++ [';']
  else [Char.ofNat (Markup.referenceNumber number)]

/-- The text of a reference to an entity, or the reference itself where it might be markup or is not
known. -/
def entityText (entities : List (List Char × List Char)) (name : List Char) : List Char :=
  let itself := '&' :: name ++ [';']
  if keptNames.contains (String.ofList name) then itself
  else match entities.lookup name with
    | some text =>
      if ['&', '#'].isPrefixOf text && text.getLast? == some ';' then '&' :: text ++ [';'] else text
    | none =>
      match Markup.htmlEntity? (String.ofList name) with
      | some c => [c]
      | none => itself

def Builder.token (entities : List (List Char × List Char)) (b : Builder) : Markup.Token → Builder
  | .text cs => b.addText cs
  | .character number => b.addPiece (characterText number)
  | .entity name => b.addPiece (entityText entities name)
  | .start name attributes isClosed =>
    let tag := String.ofList name
    let b := b.startElement tag
      (attributes.map fun (k, v) => (String.ofList k, String.ofList v))
    if isClosed then b.finishElement tag else b
  | .finish name => b.finishElement (String.ofList name)
  | .literal cs => b.addPiece (Markup.escapeLiteral cs)
  | .comment _ | .other => b

def ofMarkup (s : Source) : Builder :=
  (Markup.tokens (Markup.repaired s.text)).foldl (Builder.token s.entities) { isLenient := true }

/-! ## 3. Pages -/

def Builder.facts (b : Builder) (s : Source) (problem : Option String) : Facts where
  version := some (s.format.getD b.format)
  author := b.feed.author
  authorLink := b.feed.authorAddress
  title := b.feed.title
  link := b.feed.link
  entries := b.entries.reverse.map Draft.entryFacts
  problem := problem

def faultText : Xml.ReadFault → String
  | .notWellFormed f =>
    "<unknown>:" ++ Text.ofNat f.position.line ++ ":" ++ Text.ofNat f.position.column ++ ": " ++
      f.fault.message
  | .encodingName _ => "unknown encoding"

def read (bytes : List UInt8) : Facts :=
  if bytes.isEmpty then {}
  else
    let s := Source.ofBytes bytes
    match Xml.readDocument pageOptions (Text.Utf8.encode s.text) with
    | .ok events => (ofEvents events).facts s s.problem
    | .error fault => (ofMarkup s).facts s (some (faultText fault))

end VideoWall.Feed
