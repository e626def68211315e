import VideoWall.Xml.Declaration
import VideoWall.Xml.Encoding
import VideoWall.Xml.Namespace
import VideoWall.Xml.Prolog

/-!
# Reading documents

A document is read into a list of events: elements start and end, and text stands between. Entities
that the document declares are expanded in place; a fault inside an expansion is reported at the
reference that led into it.
-/

namespace VideoWall.Xml

inductive Event where
  | start (name : Name) (attributes : List (Name × String)) (declared : List (String × String))
  | finish (name : Name)
  | text (cs : List Char)
deriving Repr

inductive Entity where
  | internal (text : List Char)
  | external
  | unparsed
deriving Repr

structure Doctype where
  entities : List (List Char × Entity) := []
  /-- Whether some declarations are not read. -/
  isPartial : Bool := false
  /-- Whether the document says that it needs no declarations from elsewhere. -/
  isStandalone : Bool := false
  /-- Whether declarations still count. -/
  isOpen : Bool := true
deriving Repr

/-- What a reader does beyond the rules of the format. -/
structure ReaderOptions where
  /-- Whether a reference to an entity that is not read is a fault. -/
  refusesUnread : Bool
  /-- The character that ends a namespace where names are written in one piece. -/
  closer : Char
deriving Repr

def predefined? (name : List Char) : Option Char :=
  match String.ofList name with
  | "amp" => some '&'
  | "lt" => some '<'
  | "gt" => some '>'
  | "quot" => some '"'
  | "apos" => some '\''
  | _ => none

namespace Doctype

def mustDeclare (d : Doctype) : Bool := !d.isPartial || d.isStandalone

/-- The most characters that expansions may come to, whatever the size of the document. -/
def expansionAllowance : Nat := 8388608

def expansionFactor : Nat := 100

/-- Whether a document has grown too much, having read `direct` characters of its own and
`indirect` characters of entities. -/
def isTooMuch (direct indirect : Nat) : Bool :=
  expansionAllowance ≤ direct + indirect && expansionFactor * direct < direct + indirect

end Doctype

/-! ## 1. Values -/

/-- A text that is being expanded; the name of the entity that it belongs to, unless it is the
document's own. -/
structure Frame where
  entity : Option (List Char)
  text : List Char
deriving Repr

/-- A fault in a value: the kind, and the rest of the value where its place is known. -/
structure ValueFault where
  fault : Fault
  rest : Option (List Char)
deriving Repr

/-- Expands the value of an attribute. White space becomes spaces, references what they stand for. -/
def expandValue (d : Doctype) (outer : List (List Char)) :
    (fuel : Nat) → List Frame → Except ValueFault (List Char)
  | 0, _ => .error ⟨.tooMuchExpansion, none⟩
  | _, [] => .ok []
  | fuel + 1, f :: fs =>
    -- Inside of an entity a place would be no place in the document.
    let at_ : Option (List Char) := if f.entity.isNone then some f.text else none
    let go (rest : List Char) := expandValue d outer fuel (⟨f.entity, rest⟩ :: fs)
    match f.text with
    | [] => expandValue d outer fuel fs
    | '<' :: _ => .error ⟨.invalidToken, at_⟩
    | '&' :: cs =>
      match scanReference cs with
      | .error _ => .error ⟨.invalidToken, at_⟩
      | .ok (.character n, rest) =>
        if isXmlCodePoint n then (go rest).map (Char.ofNat n :: ·)
        else .error ⟨.badCharacterNumber, at_⟩
      | .ok (.entity name, rest) =>
        match predefined? name with
        | some c => (go rest).map (c :: ·)
        | none =>
          match d.entities.lookup name with
          | none => if d.mustDeclare then .error ⟨.undefinedEntity, none⟩ else go rest
          | some entity =>
            -- The tag itself may stand in an expansion, which counts as well.
            if outer.contains name || (f :: fs).any (·.entity == some name) then
              .error ⟨.recursiveEntity, at_⟩
            else match entity with
              | .unparsed => .error ⟨.binaryEntity, at_⟩
              | .external => .error ⟨.externalEntityInAttribute, at_⟩
              | .internal text =>
                expandValue d outer fuel (⟨some name, text⟩ :: ⟨f.entity, rest⟩ :: fs)
    | '\r' :: '\n' :: rest | '\r' :: rest | '\n' :: rest | '\t' :: rest => (go rest).map (' ' :: ·)
    | c :: rest => (go rest).map (c :: ·)

def valueFuel (value : List Char) : Nat :=
  2 * (Doctype.expansionAllowance + value.length + 2)

def attributeValue (d : Doctype) (outer : List (List Char)) (value : List Char) :
    Except ValueFault (List Char) :=
  expandValue d outer (valueFuel value) [⟨none, value⟩]

/-- The replacement text of an entity from its value: references to characters are replaced, those
to entities are kept. The part of the document behind the value is `behind`. -/
def entityText (behind : List Char) : (fuel : Nat) → List Char → Except Halt (List Char)
  | 0, cs => .error ⟨.invalidToken, cs ++ behind⟩
  | _, [] => .ok []
  | fuel + 1, c :: cs =>
    let here := c :: cs ++ behind
    -- A reference to a parameter is not allowed within a declaration of the document itself.
    if c == '%' then
      match cs with
      | [] => .error ⟨.invalidToken, here⟩
      | d :: _ =>
        if isNameStart d then
          match (takeName cs).2 with
          | [] => .error ⟨.invalidToken, here⟩
          | ';' :: _ => .error ⟨.parameterReference, here⟩
          | rest => .error ⟨.invalidToken, rest ++ behind⟩
        else .error ⟨.invalidToken, cs ++ behind⟩
    else if c == '&' then
      match scanReference cs with
      | .error (.invalid rest) => .error ⟨.invalidToken, rest ++ behind⟩
      | .error _ => .error ⟨.invalidToken, here⟩
      | .ok (.character n, rest) =>
        if isXmlCodePoint n then (entityText behind fuel rest).map (Char.ofNat n :: ·)
        else .error ⟨.badCharacterNumber, here⟩
      | .ok (.entity name, rest) =>
        (entityText behind fuel rest).map fun text => '&' :: name ++ ';' :: text
    else if c == '\r' then
      (entityText behind fuel (if cs.head? == some '\n' then cs.drop 1 else cs)).map ('\n' :: ·)
    else (entityText behind fuel cs).map (c :: ·)

/-! ## 2. The prolog -/

def isPublicIdChar (c : Char) : Bool :=
  Text.isAsciiLetter c || Text.isAsciiDigit c || " \r\n-'()+,./:=?;!*#@$_%".toList.contains c

/-- How a text ends for a reader that wants more of it in the middle of a token. -/
def Ending.inToken (e : Ending) (start : List Char) : Halt :=
  match e with
  | .complete | .halfUnit => ⟨.unclosedToken, start⟩
  | .malformed => ⟨.invalidToken, []⟩
  | .cut => ⟨.partialCharacter, start⟩

def Ending.beforeToken : Ending → Fault
  | .complete => .noElement
  | .halfUnit => .unclosedToken
  | .malformed => .invalidToken
  | .cut => .partialCharacter

/-- The halt for a token that could not be read. A part of a character is no sign, and it is not looked at
before a word. -/
def Stop.halt (s : Stop) (e : Ending) (start : List Char) : Halt :=
  match s, e with
  | .invalid rest, _ => ⟨.invalidToken, rest⟩
  | .endedBeforeSign, .cut => Ending.malformed.inToken start
  | .endedBeforeWord, .cut => Ending.complete.inToken start
  | _, e => e.inToken start

structure PrologState where
  place : Prolog.Place := .start
  doctype : Doctype := {}
  /-- The entity that is being declared, if its declaration counts. -/
  pending : Option (List Char) := none
  /-- The connectors of the groups of elements that are open, outermost first. -/
  connectors : List (Option Char) := []
deriving Repr

inductive PrologResult where
  /-- The document declares itself; reading goes on behind the declaration. -/
  | declared (d : Declaration) (rest : List Char)
  | root (doctype : Doctype) (rest : List Char)
deriving Repr

/-- Declares the pending entity, unless it has been declared before. -/
def PrologState.declare (s : PrologState) (e : Entity) : PrologState :=
  match s.pending with
  | none => s
  | some name =>
    { s with doctype := { s.doctype with entities := s.doctype.entities ++ [(name, e)] } }

def PrologState.markUnparsed (s : PrologState) : PrologState :=
  match s.pending with
  | none => s
  | some name =>
    let entities := s.doctype.entities.map fun (n, e) => if n == name then (n, .unparsed) else (n, e)
    { s with doctype := { s.doctype with entities } }

def PrologState.apply (s : PrologState) (start : List Char) :
    Prolog.Meaning → Except Halt PrologState
  | .nothing | .declaration _ | .root => .ok s
  | .publicId cs =>
    match cs.dropWhile isPublicIdChar with
    | [] => .ok s
    | bad => .error ⟨.badPublicId, bad ++ start.drop (1 + cs.length)⟩
  | .doctypeExternal => .ok { s with doctype := { s.doctype with isPartial := true } }
  | .parameterReference =>
    -- What it stands for is not read; what is declared behind it counts only in standalone documents.
    .ok { s with doctype :=
      { s.doctype with isPartial := true, isOpen := s.doctype.isStandalone } }
  | .entityName isParameter name =>
    -- The first declaration of a name counts.
    let counts := !isParameter && s.doctype.isOpen && (predefined? name).isNone &&
      (s.doctype.entities.lookup name).isNone
    .ok { s with pending := if counts then some name else none }
  | .entityValue cs contentRest =>
    if s.doctype.isOpen then
      (entityText (contentRest.drop cs.length) (cs.length + 1) cs).map fun text =>
        s.declare (.internal text)
    else .ok s
  | .entityExternal => .ok (s.declare .external)
  | .entityUnparsed => .ok s.markUnparsed
  | .defaultValue cs contentRest =>
    if s.doctype.isOpen then
      match attributeValue s.doctype [] cs with
      | .ok _ => .ok s
      | .error f =>
        .error ⟨f.fault, match f.rest with
          | some r => r ++ contentRest.drop cs.length
          | none => start⟩
    else .ok s
  | .groupOpened depth => .ok { s with connectors := s.connectors.take (depth - 1) ++ [none] }
  | .connector c depth =>
    match s.connectors[depth - 1]? with
    | some (some d) => if c = d then .ok s else .error ⟨.syntaxError, start⟩
    | _ => .ok { s with connectors := s.connectors.set (depth - 1) (some c) }

def refusal : Prolog.Token → Fault
  | .parameterReference => .parameterReference
  | .instruction (.declaration _) => .misplacedDeclaration
  | _ => .syntaxError

def readToken (e : Ending) (start : List Char) : Except Halt (Prolog.Token × List Char) :=
  let hasBytes := e == .malformed || e == .cut
  match Prolog.scan start with
  | .error stop =>
    -- Some tokens are complete as soon as a byte follows, whatever it belongs to.
    match if hasBytes then Prolog.tokenBeforeBytes? (e == .cut) start else none with
    | some read => .ok read
    | none => .error (stop.halt e start)
  | .ok (t, []) =>
    -- A token that could go on waits for the character that the bytes do not make.
    match if hasBytes then t.endStop? else none with
    | some stop => .error (stop.halt e start)
    | none => .ok (if e == .halfUnit then t.withHalfUnit else t, [])
  | .ok (t, rest) => .ok (t, rest)

def Ending.behind (e : Ending) (t : Prolog.Token) (rest : List Char) : Ending :=
  if e == .halfUnit && rest.isEmpty && t.takesHalfUnit then .complete else e

/-- Reads the prolog up to the declaration of the document or to the start of the root. -/
def readProlog (e : Ending) : (fuel : Nat) → PrologState → List Char → Except Halt PrologResult
  | _, _, [] => .error ⟨e.beforeToken, []⟩
  | 0, _, start => .error ⟨e.beforeToken, start⟩
  | fuel + 1, s, start =>
    match readToken e start with
    | .error h => .error h
    | .ok (t, rest) =>
      match Prolog.step s.place t with
      | none => .error ⟨refusal t, start⟩
      -- The start tag is read again with the content.
      | some (_, .root) => .ok (.root s.doctype start)
      | some (_, .declaration body) =>
        match Declaration.read body with
        | .error bad => .error ⟨.malformedDeclaration, bad ++ '?' :: '>' :: rest⟩
        | .ok d => .ok (.declared d rest)
      | some (place, meaning) =>
        match s.apply start meaning with
        | .error h => .error h
        | .ok s => readProlog (e.behind t rest) fuel { s with place } rest

/-! ## 3. Content -/

structure OpenTag where
  written : List Char
  name : Name
  /-- The bindings around it. -/
  outer : Bindings
deriving Repr

structure Expansion where
  entity : List Char
  text : List Char
  /-- How many elements were open when it started. -/
  depth : Nat
deriving Repr

structure ContentState where
  tags : List OpenTag := []
  bindings : Bindings := .initial
  /-- The entities that are being expanded, innermost first. -/
  expansions : List Expansion := []
  /-- The document from the reference on that led into the outermost expansion. -/
  reference : List Char := []
  inCdata : Bool := false
  spent : Nat := 0
  /-- The events so far, last one first. -/
  events : List Event := []

namespace ContentState

/-- Reports a fault: at its place, or at the reference that led into an expansion. -/
def fail {α : Type} (s : ContentState) (h : Halt) : Except Halt α :=
  if s.expansions.isEmpty then .error h else .error ⟨h.fault, s.reference⟩

def emit (s : ContentState) (e : Event) : ContentState := { s with events := e :: s.events }

/-- Goes on with what is left of the innermost expansion, or of the document. -/
def goOn (s : ContentState) (main rest : List Char) : ContentState × List Char :=
  match s.expansions with
  | [] => (s, rest)
  | f :: fs =>
    ({ s with expansions := { f with text := rest } :: fs
              spent := s.spent + (f.text.length - rest.length) }, main)

end ContentState

/-- Checks and expands the attributes of a tag one after the other, taking up the namespaces that
they declare. -/
def readAttributes (d : Doctype) (closer : Char) (outer : List (List Char)) (start : List Char) :
    (seen : List (List Char)) → Bindings → List RawAttribute →
    Except Halt (List (RawName × List Char) × List (List Char × List Char) × Bindings)
  | _, b, [] => .ok ([], [], b)
  | seen, b, a :: rest =>
    if seen.contains a.name.chars then .error ⟨.duplicateAttribute, a.nameRest⟩
    else match attributeValue d outer a.value with
      | .error f =>
        .error ⟨f.fault, match f.rest with
          | some r => r ++ a.valueRest.drop a.value.length
          | none => start⟩
      | .ok value =>
        match a.name.declares? with
        | some qualifier =>
          match Bindings.bindingFault? closer qualifier value with
          | some fault => .error ⟨fault, start⟩
          | none =>
            (readAttributes d closer outer start (a.name.chars :: seen) ((qualifier, value) :: b)
              rest).map fun (plain, declared, b) => (plain, (qualifier, value) :: declared, b)
        | none =>
          (readAttributes d closer outer start (a.name.chars :: seen) b rest).map
            fun (plain, declared, b) => ((a.name, value) :: plain, declared, b)

/-- Gives attributes their names. Two of them may not come to the same name. -/
def nameAttributes (b : Bindings) (start : List Char) :
    (seen : List (String × String)) → List (RawName × List Char) →
    Except Halt (List (Name × String))
  | _, [] => .ok []
  | seen, (raw, value) :: rest =>
    match raw.attributeName? b with
    | none => .error ⟨.unboundQualifier, start⟩
    | some name =>
      if raw.qualifier.isSome && seen.contains (name.space, name.base) then
        .error ⟨.duplicateAttribute, start⟩
      else
        (nameAttributes b start ((name.space, name.base) :: seen) rest).map
          ((name, String.ofList value) :: ·)

def startElement (d : Doctype) (o : ReaderOptions) (s : ContentState) (start : List Char)
    (t : RawTag) : Except Halt ContentState := do
  let outer := s.expansions.map (·.entity)
  let (plain, declared, b) ← readAttributes d o.closer outer start [] s.bindings t.attributes
  let attributes ← nameAttributes b start [] plain
  match t.name.elementName? b with
  | none => .error ⟨.unboundQualifier, start⟩
  | some name =>
    let declared := declared.map fun (q, space) => (String.ofList q, String.ofList space)
    let s := s.emit (.start name attributes declared)
    if t.isEmpty then return s.emit (.finish name)
    else return { s with tags := ⟨t.name.chars, name, s.bindings⟩ :: s.tags, bindings := b }

def endElement (s : ContentState) (written nameRest : List Char) : Except Halt ContentState :=
  let isBalanced := match s.expansions with
    | [] => true
    | f :: _ => f.depth < s.tags.length
  match s.tags with
  | [] => .error ⟨.asynchronousEntity, nameRest⟩
  | t :: tags =>
    if !isBalanced then .error ⟨.asynchronousEntity, nameRest⟩
    else if t.written != written then .error ⟨.mismatchedTag, nameRest⟩
    else .ok ({ s with tags, bindings := t.outer }.emit (.finish t.name))

def followReference (d : Doctype) (o : ReaderOptions) (s : ContentState) (start name : List Char) :
    Except Halt ContentState :=
  match predefined? name with
  | some c => .ok (s.emit (.text [c]))
  | none =>
    let unread : Except Halt ContentState :=
      if o.refusesUnread then .error ⟨.unreadEntity name, start⟩ else .ok s
    match d.entities.lookup name with
    | none => if d.mustDeclare then .error ⟨.undefinedEntity, start⟩ else unread
    | some entity =>
      if s.expansions.any (·.entity == name) then .error ⟨.recursiveEntity, start⟩
      else match entity with
        | .unparsed => .error ⟨.binaryEntity, start⟩
        | .external => unread
        | .internal text =>
          .ok { s with
            expansions := ⟨name, text, s.tags.length⟩ :: s.expansions
            reference := if s.expansions.isEmpty then start else s.reference }

def applyContent (d : Doctype) (o : ReaderOptions) (s : ContentState) (start : List Char) :
    ContentToken → Except Halt ContentState
  | .text cs => .ok (s.emit (.text cs))
  | .reference (.character n) =>
    if isXmlCodePoint n then .ok (s.emit (.text [Char.ofNat n]))
    else .error ⟨.badCharacterNumber, start⟩
  | .reference (.entity name) => followReference d o s start name
  | .cdata => .ok { s with inCdata := true }
  | .comment | .instruction .other => .ok s
  | .instruction (.declaration _) => .error ⟨.misplacedDeclaration, start⟩
  | .startTag t => startElement d o s start t
  | .endTag written nameRest => endElement s written nameRest

def stepCdata (e : Ending) (s : ContentState) (start : List Char) :
    Except Halt (ContentState × List Char) :=
  match scanCdata start with
  | .ok (.text cs, rest) => .ok (s.emit (.text cs), rest)
  | .ok (.close, rest) => .ok ({ s with inCdata := false }, rest)
  | .error (.invalid rest) => .error ⟨.invalidToken, rest⟩
  | .error _ =>
    match e with
    | .complete | .halfUnit => .error ⟨.unclosedCdata, start⟩
    | .malformed => .error ⟨.invalidToken, []⟩
    | .cut => .error ⟨.partialCharacter, []⟩

/-- Reads one token of content, which goes on in front of the given rest. A reference leads into
its expansion only once what is left around it has been noted. -/
def stepContent (d : Doctype) (o : ReaderOptions) (e : Ending) (s : ContentState)
    (main start : List Char) : Except Halt (ContentState × List Char) :=
  if s.inCdata then (stepCdata e s start).map fun (next, rest) => next.goOn main rest
  -- A carriage return that ends the document waits for a line feed and for more content.
  else if start == ['\r'] && (e == .complete || e == .halfUnit) && s.expansions.isEmpty then
    .error ⟨.noElement, start⟩
  else match scanContent start with
    | .error stop => .error (stop.halt e start)
    | .ok (t, rest) =>
      let (noted, main) := s.goOn main rest
      (applyContent d o noted start t).map (·, main)

/-- Reads the content of a document up to the end of its root, of `total` characters in all; gives
the events and the rest of the document. -/
def readContent (d : Doctype) (o : ReaderOptions) (e : Ending) (total : Nat) :
    (fuel : Nat) → ContentState → (main : List Char) → Except Halt (List Event × List Char)
  | 0, s, main => s.fail ⟨.tooMuchExpansion, main⟩
  | fuel + 1, s, main =>
    match s.expansions with
    | ⟨_, [], depth⟩ :: rest =>
      if s.inCdata then s.fail ⟨.unclosedCdata, main⟩
      else if s.tags.length = depth then
        readContent d o e total fuel { s with expansions := rest } main
      else s.fail ⟨.asynchronousEntity, main⟩
    | ⟨_, start, _⟩ :: _ =>
      -- The rest is counted only where the sum alone does not rule it out.
      if Doctype.expansionAllowance ≤ s.spent + total &&
          Doctype.isTooMuch (total - main.length) s.spent then s.fail ⟨.tooMuchExpansion, main⟩
      else match stepContent d o .complete s main start with
        | .error h => s.fail h
        | .ok (next, main) => readContent d o e total fuel next main
    | [] =>
      match main with
      | [] =>
        if s.inCdata && (e == .complete || e == .halfUnit) then .error ⟨.unclosedCdata, []⟩
        else .error ⟨e.beforeToken, []⟩
      | start =>
        match stepContent d o e s main start with
        | .error h => s.fail h
        | .ok (next, main) =>
          if next.tags.isEmpty && next.expansions.isEmpty && !next.inCdata then
            .ok (next.events.reverse, main)
          else readContent d o e total fuel next main

/-- Reads what follows the root: white space, comments and instructions only. -/
def readEpilog (e : Ending) : (fuel : Nat) → List Char → Except Halt Unit
  | _, [] => if e = .complete then .ok () else .error ⟨e.beforeToken, []⟩
  | 0, start => .error ⟨.junkAfterRoot, start⟩
  | fuel + 1, start =>
    match readToken e start with
    | .error h => .error h
    | .ok (.space, rest) | .ok (.comment, rest) | .ok (.instruction .other, rest) =>
      readEpilog e fuel rest
    | .ok _ => .error ⟨.junkAfterRoot, start⟩

def contentFuel (size : Nat) : Nat :=
  4 * (Doctype.expansionAllowance + Doctype.expansionFactor * size + size + 2)

def readRoot (o : ReaderOptions) (e : Ending) (d : Doctype) (total : Nat) (start : List Char) :
    Except Halt (List Event) := do
  let (events, rest) ← readContent d o e total (contentFuel total) {} start
  readEpilog e (rest.length + 1) rest
  return events

/-! ## 4. Documents -/

inductive ReadFault where
  | notWellFormed (at_ : Located)
  | encodingName (fault : Encoding.NameFault)
deriving DecidableEq, Repr

def Halt.locate (text : List Char) (h : Halt) : ReadFault :=
  .notWellFormed ⟨h.fault, .ofRest text h.rest⟩

/-- The characters of a document, with what stands for the byte order mark in front if there is one: a
character, or one for each of its bytes if the encoding reads bytes one by one. -/
def marked (hasMark : Bool) (recognised encoding : Encoding) (cs : List Char) : List Char :=
  let width := if encoding.isBytewise then (if recognised.unit = 2 then 2 else 3) else 1
  if hasMark then List.replicate width '\uFEFF' ++ cs else cs

def readBehind (o : ReaderOptions) (standalone : Bool) (text : List Char) (e : Ending)
    (rest : List Char) : Except ReadFault (List Event) :=
  let s : PrologState := { place := .beforeDoctype, doctype := { isStandalone := standalone } }
  match readProlog e (rest.length + 1) s rest with
  | .error h => .error (h.locate text)
  | .ok (.declared _ rest) => .error (Halt.locate text ⟨.misplacedDeclaration, rest⟩)
  | .ok (.root d start) =>
    match readRoot o e d text.length start with
    | .error h => .error (h.locate text)
    | .ok events => .ok events

def declaredEncoding (recognised : Encoding) (text rest : List Char) (d : Declaration) :
    Except ReadFault Encoding :=
  match d.encoding with
  | none => .ok recognised
  | some (name, nameRest) =>
    let nameRest := nameRest ++ '?' :: '>' :: rest
    match Encoding.ofName recognised name with
    | .ok e => .ok e
    | .error .foreign => .error (Halt.locate text ⟨.unknownEncoding, nameRest⟩)
    | .error .conflicting => .error (Halt.locate text ⟨.incorrectEncoding, nameRest⟩)
    | .error fault => .error (.encodingName fault)

/-- Reads a document. What follows a declaration is decoded from the byte behind it on. -/
def readDocument (o : ReaderOptions) (bytes : List UInt8) : Except ReadFault (List Event) :=
  match Encoding.recognise bytes with
  | .tooShort => .error (.notWellFormed ⟨.unclosedToken, .start⟩)
  | .encoded recognised hasMark bytes =>
    let decoded := recognised.decode bytes
    let text := marked hasMark recognised recognised decoded.chars
    match readProlog decoded.ending (decoded.chars.length + 1) {} decoded.chars with
    | .error h => .error (h.locate text)
    | .ok (.root d start) =>
      match readRoot o decoded.ending d text.length start with
      | .error h => .error (h.locate text)
      | .ok events => .ok events
    | .ok (.declared d rest) => do
      let encoding ← declaredEncoding recognised text rest d
      let again := encoding.decode bytes
      -- The declaration has the same characters in both encodings, in units of other sizes.
      let declaration := (decoded.chars.length - rest.length) * recognised.unit / encoding.unit
      readBehind o d.standalone (marked hasMark recognised encoding again.chars) again.ending
        (again.chars.drop declaration)

end VideoWall.Xml
