import VideoWall.Xml.Fault
import VideoWall.Xml.Scan

/-!
# Tokens and order of the prolog

The tokens in front of the root element, and the order in which the declarations of a document type
may use them. The order is a machine: a state and a token give the next state, and what does not fit
is a fault.
-/

namespace VideoWall.Xml.Prolog

/-! ## 1. Tokens -/

inductive Token where
  | space
  | comment
  | instruction (i : Instruction)
  /-- The start of a declaration and its keyword. -/
  | open_ (keyword : List Char)
  | close
  | name (cs : List Char)
  | qualifiedName (cs : List Char)
  /-- A word that is no name. -/
  | word
  /-- A name with a sign for how often it may occur. -/
  | countedName
  | hashName (cs : List Char)
  | literal (cs contentRest : List Char)
  | percent
  | parameterReference
  | comma
  | bar
  | openBracket
  | closeBracket
  | openParen
  | closeParen
  | closeParenStar
  /-- A closing parenthesis with a question mark or a plus sign. -/
  | closeParenCounted
  | root
  /-- The start of a section that depends on a condition. -/
  | conditional
deriving Repr

def endsLiteral (c : Char) : Bool :=
  isSpace c || c == '>' || c == '%' || c == '['

def scanLiteralBody (quote : Char) : List Char → Scan (List Char)
  | [] => .error .ended
  | c :: cs =>
    if c == quote then
      match cs with
      | [] => .ok ([], [])
      | d :: _ => if endsLiteral d then .ok ([], cs) else .error (.invalid cs)
    else if isXmlChar c then (scanLiteralBody quote cs).map fun (v, rest) => (c :: v, rest)
    else .error (.invalid (c :: cs))

def isKeywordChar (c : Char) : Bool :=
  c.toNat < 0x80 && isNameStart c

def scanKeyword (cs : List Char) : Scan (List Char) :=
  let word := cs.takeWhile isKeywordChar
  match cs.dropWhile isKeywordChar with
  | [] => .error .endedBeforeSign
  | ['%'] => .error .ended
  | '%' :: d :: rest =>
    if isSpace d || d == '%' then .error (.invalid ('%' :: d :: rest))
    else .ok (word, '%' :: d :: rest)
  | d :: rest => if isSpace d then .ok (word, d :: rest) else .error (.invalid (d :: rest))

def scanAngle (all : List Char) : List Char → Scan Token
  | [] => .error .ended
  | '!' :: rest =>
    match rest with
    | [] => .error .endedBeforeSign
    | '-' :: rest => (scanComment rest).map fun rest => (.comment, rest)
    | '[' :: rest => .ok (.conditional, rest)
    | c :: cs =>
      if isKeywordChar c then (scanKeyword (c :: cs)).map fun (k, rest) => (.open_ k, rest)
      else .error (.invalid (c :: cs))
  | '?' :: rest => (scanInstruction rest).map fun (i, rest) => (.instruction i, rest)
  | c :: cs =>
    -- A character beyond ASCII is not looked at any further here.
    if isNameStart c || 0x80 ≤ c.toNat then .ok (.root, all) else .error (.invalid (c :: cs))

def scanPercent : List Char → Scan Token
  | [] => .error .ended
  | c :: cs =>
    if isSpace c || c == '%' then .ok (.percent, c :: cs)
    else if isNameStart c then
      match (takeName (c :: cs)).2 with
      | [] => .error .ended
      | ';' :: rest => .ok (.parameterReference, rest)
      | rest => .error (.invalid rest)
    else .error (.invalid (c :: cs))

def endsHashName (c : Char) : Bool :=
  isSpace c || c == ')' || c == '>' || c == '%' || c == '|'

def scanHashName : List Char → Scan Token
  | [] => .error .ended
  | c :: cs =>
    if isNameStart c then
      let (name, rest) := takeName (c :: cs)
      match rest with
      | [] => .ok (.hashName name, [])
      | d :: _ => if endsHashName d then .ok (.hashName name, rest) else .error (.invalid rest)
    else .error (.invalid (c :: cs))

def scanCloseParen : List Char → Scan Token
  | [] => .ok (.closeParen, [])
  | '*' :: rest => .ok (.closeParenStar, rest)
  | '?' :: rest | '+' :: rest => .ok (.closeParenCounted, rest)
  | c :: rest =>
    if isSpace c || c == '>' || c == ',' || c == '|' || c == ')' then .ok (.closeParen, c :: rest)
    else .error (.invalid (c :: rest))

def endsWord (c : Char) : Bool :=
  isSpace c || c == '>' || c == ')' || c == ',' || c == '|' || c == '[' || c == '%'

/-- Ends a word in front of the given rest; only names may be counted. -/
def endWord (t : Token) : List Char → Scan Token
  | [] => .ok (t, [])
  | c :: rest =>
    if endsWord c then .ok (t, c :: rest)
    else if c == '+' || c == '*' || c == '?' then
      match t with
      | .word => .error (.invalid (c :: rest))
      | _ => .ok (.countedName, rest)
    else .error (.invalid (c :: rest))

/-- Reads a word that is no name: any characters of names, and colons. -/
def scanPlainWord (cs : List Char) : Scan Token :=
  endWord .word (cs.dropWhile fun c => isNameChar c || c == ':')

def scanWordToken (cs : List Char) : Scan Token :=
  let (first, rest) := takeName cs
  match rest with
  | [':'] => .error .ended
  | ':' :: c :: behind =>
    if isNameChar c then
      let (second, rest) := takeName (c :: behind)
      match rest with
      | ':' :: rest => scanPlainWord rest
      | rest => endWord (.qualifiedName (first ++ ':' :: second)) rest
    else scanPlainWord (c :: behind)
  | rest => endWord (.name first) rest

def scan (all : List Char) : Scan Token :=
  match all with
  | [] => .error .ended
  | '"' :: rest =>
    (scanLiteralBody '"' rest).map fun (v, behind) => (.literal v rest, behind)
  | '\'' :: rest =>
    (scanLiteralBody '\'' rest).map fun (v, behind) => (.literal v rest, behind)
  | '<' :: rest => scanAngle all rest
  | '%' :: rest => scanPercent rest
  | '#' :: rest => scanHashName rest
  | ',' :: rest => .ok (.comma, rest)
  | '|' :: rest => .ok (.bar, rest)
  | '>' :: rest => .ok (.close, rest)
  | '[' :: rest => .ok (.openBracket, rest)
  | [']', ']'] => .error .ended
  | ']' :: ']' :: '>' :: rest => .ok (.conditional, rest)
  | ']' :: rest => .ok (.closeBracket, rest)
  | '(' :: rest => .ok (.openParen, rest)
  | ')' :: rest => scanCloseParen rest
  | c :: rest =>
    if isSpace c then .ok (.space, skipSpace rest)
    else if isNameStart c then scanWordToken (c :: rest)
    else if isNameChar c || c == ':' then scanPlainWord (c :: rest)
    else .error (.invalid (c :: rest))

/-- What a token at the end of a text still wants, if its last character is known only from the next
one. -/
def Token.endStop? : Token → Option Stop
  | .name _ | .qualifiedName _ | .word | .hashName _ => some .ended
  | .literal .. | .closeParen => some .endedBeforeSign
  | _ => none

/-- Whether a token at the end of a text takes up half a unit behind it. -/
def Token.takesHalfUnit (t : Token) : Bool :=
  match t with
  | .closeBracket => true
  | _ => t.endStop?.isSome

/-- A token that takes up half a unit behind it: a name becomes another one, and no keyword. -/
def Token.withHalfUnit : Token → Token
  | .name cs => .name (cs ++ ['\uFFFD'])
  | .hashName cs => .hashName (cs ++ ['\uFFFD'])
  | t => t

/-- The token that is complete as soon as bytes follow it, whatever they are; an opening bracket needs the
first one of a character beyond ASCII. -/
def tokenBeforeBytes? (isCut : Bool) (start : List Char) : Option (Token × List Char) :=
  match start with
  | ['<'] => if isCut then some (.root, start) else none
  | [']', ']'] => some (.closeBracket, [']'])
  | '<' :: '!' :: c :: cs =>
    if isKeywordChar c && cs.dropWhile isKeywordChar == ['%'] then
      some (.open_ (c :: cs.takeWhile isKeywordChar), ['%'])
    else none
  | _ => none

/-! ## 2. Order -/

inductive Part where
  | doctypeName
  | doctypeAfterName
  | doctypePublic
  | doctypeSystem
  | doctypeAfterSystem
  | doctypeAfterSubset
  | entityStart
  | parameterEntityName
  | entityDefinition (isParameter : Bool)
  | entityPublic (isParameter : Bool)
  | entitySystem (isParameter : Bool)
  | entityAfterSystem (isParameter : Bool)
  | entityNotation
  | attlistElement
  | attlistName
  | attlistType
  | attlistValue
  | attlistAfterValue
  | attlistNotation
  | attlistNotationValue
  | attlistAfterNotationValue
  | attlistDefault
  | attlistFixed
  | elementName
  | elementModel
  | elementFirst
  | elementAfterText
  | elementMixedName
  | elementAfterMixedName
  | elementGroup (depth : Nat)
  | elementAfterItem (depth : Nat)
  | notationName
  | notationKind
  | notationPublic
  | notationSystem
  | notationAfterPublic
  /-- Only the end of the declaration may follow. -/
  | finished
deriving DecidableEq, Repr

inductive Place where
  /-- At the very start, where the document may be declared. -/
  | start
  | beforeDoctype
  | inside (part : Part)
  /-- Between the declarations of the internal subset. -/
  | subset
  | afterDoctype
deriving DecidableEq, Repr

inductive Meaning where
  | nothing
  | declaration (body : List Char)
  | publicId (cs : List Char)
  | doctypeExternal
  | parameterReference
  | entityName (isParameter : Bool) (name : List Char)
  | entityValue (cs contentRest : List Char)
  | entityExternal
  | entityUnparsed
  | defaultValue (cs contentRest : List Char)
  | root
  /-- A connector of a group of elements, and the depth of the group. -/
  | connector (c : Char) (depth : Nat)
  | groupOpened (depth : Nat)
deriving Repr

def isKeyword (word : String) (cs : List Char) : Bool := String.ofList cs == word

/-- The keywords of the types of attributes that need no list of values. -/
def attributeTypes : List String :=
  ["CDATA", "ID", "IDREF", "IDREFS", "ENTITY", "ENTITIES", "NMTOKEN", "NMTOKENS"]

def doctypeStep (p : Part) (t : Token) : Option (Place × Meaning) :=
  match p, t with
  | .doctypeName, .name _ | .doctypeName, .qualifiedName _ =>
    some (.inside .doctypeAfterName, .nothing)
  | .doctypeAfterName, .openBracket => some (.subset, .nothing)
  | .doctypeAfterName, .close => some (.afterDoctype, .nothing)
  | .doctypeAfterName, .name k =>
    if isKeyword "SYSTEM" k then some (.inside .doctypeSystem, .nothing)
    else if isKeyword "PUBLIC" k then some (.inside .doctypePublic, .nothing)
    else none
  | .doctypePublic, .literal cs _ => some (.inside .doctypeSystem, .publicId cs)
  | .doctypeSystem, .literal _ _ => some (.inside .doctypeAfterSystem, .doctypeExternal)
  | .doctypeAfterSystem, .openBracket => some (.subset, .nothing)
  | .doctypeAfterSystem, .close => some (.afterDoctype, .nothing)
  | .doctypeAfterSubset, .close => some (.afterDoctype, .nothing)
  | _, _ => none

def entityStep (p : Part) (t : Token) : Option (Place × Meaning) :=
  match p, t with
  | .entityStart, .percent => some (.inside .parameterEntityName, .nothing)
  | .entityStart, .name n => some (.inside (.entityDefinition false), .entityName false n)
  | .parameterEntityName, .name n => some (.inside (.entityDefinition true), .entityName true n)
  | .entityDefinition b, .name k =>
    if isKeyword "SYSTEM" k then some (.inside (.entitySystem b), .nothing)
    else if isKeyword "PUBLIC" k then some (.inside (.entityPublic b), .nothing)
    else none
  | .entityDefinition _, .literal cs rest => some (.inside .finished, .entityValue cs rest)
  | .entityPublic b, .literal cs _ => some (.inside (.entitySystem b), .publicId cs)
  | .entitySystem b, .literal _ _ => some (.inside (.entityAfterSystem b), .entityExternal)
  | .entityAfterSystem _, .close => some (.subset, .nothing)
  | .entityAfterSystem false, .name k =>
    if isKeyword "NDATA" k then some (.inside .entityNotation, .nothing) else none
  | .entityNotation, .name _ => some (.inside .finished, .entityUnparsed)
  | _, _ => none

def attlistStep (p : Part) (t : Token) : Option (Place × Meaning) :=
  match p, t with
  | .attlistElement, .name _ | .attlistElement, .qualifiedName _ =>
    some (.inside .attlistName, .nothing)
  | .attlistName, .close => some (.subset, .nothing)
  | .attlistName, .name _ | .attlistName, .qualifiedName _ => some (.inside .attlistType, .nothing)
  | .attlistType, .name k =>
    if attributeTypes.contains (String.ofList k) then some (.inside .attlistDefault, .nothing)
    else if isKeyword "NOTATION" k then some (.inside .attlistNotation, .nothing)
    else none
  | .attlistType, .openParen => some (.inside .attlistValue, .nothing)
  | .attlistValue, .name _ | .attlistValue, .qualifiedName _ | .attlistValue, .word =>
    some (.inside .attlistAfterValue, .nothing)
  | .attlistAfterValue, .closeParen => some (.inside .attlistDefault, .nothing)
  | .attlistAfterValue, .bar => some (.inside .attlistValue, .nothing)
  | .attlistNotation, .openParen => some (.inside .attlistNotationValue, .nothing)
  | .attlistNotationValue, .name _ => some (.inside .attlistAfterNotationValue, .nothing)
  | .attlistAfterNotationValue, .closeParen => some (.inside .attlistDefault, .nothing)
  | .attlistAfterNotationValue, .bar => some (.inside .attlistNotationValue, .nothing)
  | .attlistDefault, .hashName k =>
    if isKeyword "IMPLIED" k || isKeyword "REQUIRED" k then some (.inside .attlistName, .nothing)
    else if isKeyword "FIXED" k then some (.inside .attlistFixed, .nothing)
    else none
  | .attlistDefault, .literal cs rest | .attlistFixed, .literal cs rest =>
    some (.inside .attlistName, .defaultValue cs rest)
  | _, _ => none

def closeGroup : Nat → Part
  | 0 | 1 => .finished
  | d + 1 => .elementAfterItem d

def elementStep (p : Part) (t : Token) : Option (Place × Meaning) :=
  match p, t with
  | .elementName, .name _ | .elementName, .qualifiedName _ => some (.inside .elementModel, .nothing)
  | .elementModel, .name k =>
    if isKeyword "EMPTY" k || isKeyword "ANY" k then some (.inside .finished, .nothing) else none
  | .elementModel, .openParen => some (.inside .elementFirst, .groupOpened 1)
  | .elementFirst, .hashName k =>
    if isKeyword "PCDATA" k then some (.inside .elementAfterText, .nothing) else none
  | .elementFirst, .openParen => some (.inside (.elementGroup 2), .groupOpened 2)
  | .elementFirst, .name _ | .elementFirst, .qualifiedName _ | .elementFirst, .countedName =>
    some (.inside (.elementAfterItem 1), .nothing)
  | .elementAfterText, .closeParen | .elementAfterText, .closeParenStar =>
    some (.inside .finished, .nothing)
  | .elementAfterText, .bar => some (.inside .elementMixedName, .nothing)
  | .elementMixedName, .name _ | .elementMixedName, .qualifiedName _ =>
    some (.inside .elementAfterMixedName, .nothing)
  | .elementAfterMixedName, .closeParenStar => some (.inside .finished, .nothing)
  | .elementAfterMixedName, .bar => some (.inside .elementMixedName, .nothing)
  | .elementGroup d, .openParen => some (.inside (.elementGroup (d + 1)), .groupOpened (d + 1))
  | .elementGroup d, .name _ | .elementGroup d, .qualifiedName _ | .elementGroup d, .countedName =>
    some (.inside (.elementAfterItem d), .nothing)
  | .elementAfterItem d, .closeParen | .elementAfterItem d, .closeParenStar
  | .elementAfterItem d, .closeParenCounted => some (.inside (closeGroup d), .nothing)
  | .elementAfterItem d, .comma => some (.inside (.elementGroup d), .connector ',' d)
  | .elementAfterItem d, .bar => some (.inside (.elementGroup d), .connector '|' d)
  | _, _ => none

def notationStep (p : Part) (t : Token) : Option (Place × Meaning) :=
  match p, t with
  | .notationName, .name _ => some (.inside .notationKind, .nothing)
  | .notationKind, .name k =>
    if isKeyword "SYSTEM" k then some (.inside .notationSystem, .nothing)
    else if isKeyword "PUBLIC" k then some (.inside .notationPublic, .nothing)
    else none
  | .notationPublic, .literal cs _ => some (.inside .notationAfterPublic, .publicId cs)
  | .notationSystem, .literal _ _ => some (.inside .finished, .nothing)
  | .notationAfterPublic, .literal _ _ => some (.inside .finished, .nothing)
  | .notationAfterPublic, .close => some (.subset, .nothing)
  | _, _ => none

/-- Moves on inside a declaration. White space may stand between all tokens. -/
def insideStep (p : Part) (t : Token) : Option (Place × Meaning) :=
  match p, t with
  | p, .space => some (.inside p, .nothing)
  | .finished, .close => some (.subset, .nothing)
  | p, t =>
    (doctypeStep p t) <|> (entityStep p t) <|> (attlistStep p t) <|> (elementStep p t) <|>
      (notationStep p t)

def openDeclaration (keyword : List Char) : Option Part :=
  if isKeyword "ENTITY" keyword then some .entityStart
  else if isKeyword "ATTLIST" keyword then some .attlistElement
  else if isKeyword "ELEMENT" keyword then some .elementName
  else if isKeyword "NOTATION" keyword then some .notationName
  else none

def subsetStep (t : Token) : Option (Place × Meaning) :=
  match t with
  | .space | .comment | .instruction .other => some (.subset, .nothing)
  | .open_ k => (openDeclaration k).map fun p => (.inside p, .nothing)
  | .parameterReference => some (.subset, .parameterReference)
  | .closeBracket => some (.inside .doctypeAfterSubset, .nothing)
  | _ => none

def outsideStep (at_ : Place) (t : Token) : Option (Place × Meaning) :=
  let next := if at_ = .start then .beforeDoctype else at_
  match t with
  | .space | .comment | .instruction .other => some (next, .nothing)
  | .instruction (.declaration body) =>
    if at_ = .start then some (next, .declaration body) else none
  | .open_ k =>
    if at_ ≠ .afterDoctype && isKeyword "DOCTYPE" k then
      some (.inside .doctypeName, .nothing)
    else none
  | .root => some (at_, .root)
  | _ => none

def step (at_ : Place) (t : Token) : Option (Place × Meaning) :=
  match at_ with
  | .inside p => insideStep p t
  | .subset => subsetStep t
  | .start | .beforeDoctype | .afterDoctype => outsideStep at_ t

end VideoWall.Xml.Prolog
