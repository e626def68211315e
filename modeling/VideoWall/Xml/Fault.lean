/-!
# Faults of XML

What can be wrong with a document, in the words in which it is reported, and where reading stopped.
-/

namespace VideoWall.Xml

inductive Fault where
  | syntaxError
  | noElement
  | invalidToken
  | unclosedToken
  | partialCharacter
  | mismatchedTag
  | duplicateAttribute
  | junkAfterRoot
  | parameterReference
  | undefinedEntity
  | recursiveEntity
  | asynchronousEntity
  | badCharacterNumber
  | binaryEntity
  | externalEntityInAttribute
  | misplacedDeclaration
  | unknownEncoding
  | incorrectEncoding
  | unclosedCdata
  | unboundQualifier
  | undeclaredQualifier
  | malformedDeclaration
  | badPublicId
  | reservedXml
  | reservedXmlns
  | reservedNamespace
  | tooMuchExpansion
  /-- A reference to an entity that is declared, if at all, in a part that is not read. -/
  | unreadEntity (name : List Char)
deriving DecidableEq, Repr

def Fault.message : Fault → String
  | syntaxError => "syntax error"
  | noElement => "no element found"
  | invalidToken => "not well-formed (invalid token)"
  | unclosedToken => "unclosed token"
  | partialCharacter => "partial character"
  | mismatchedTag => "mismatched tag"
  | duplicateAttribute => "duplicate attribute"
  | junkAfterRoot => "junk after document element"
  | parameterReference => "illegal parameter entity reference"
  | undefinedEntity => "undefined entity"
  | recursiveEntity => "recursive entity reference"
  | asynchronousEntity => "asynchronous entity"
  | badCharacterNumber => "reference to invalid character number"
  | binaryEntity => "reference to binary entity"
  | externalEntityInAttribute => "reference to external entity in attribute"
  | misplacedDeclaration => "XML or text declaration not at start of entity"
  | unknownEncoding => "unknown encoding"
  | incorrectEncoding => "encoding specified in XML declaration is incorrect"
  | unclosedCdata => "unclosed CDATA section"
  | unboundQualifier => "unbound prefix"
  | undeclaredQualifier => "must not undeclare prefix"
  | malformedDeclaration => "XML declaration not well-formed"
  | badPublicId => "illegal character(s) in public id"
  | reservedXml =>
    "reserved prefix (xml) must not be undeclared or bound to another namespace name"
  | reservedXmlns => "reserved prefix (xmlns) must not be declared or undeclared"
  | reservedNamespace => "prefix must not be bound to one of the reserved namespace names"
  | tooMuchExpansion =>
    "limit on input amplification factor (from DTD and entities) breached"
  | unreadEntity name => "undefined entity &" ++ String.ofList name ++ ";"

structure Halt where
  fault : Fault
  /-- The part of the text from the place of the fault on. -/
  rest : List Char
deriving Repr

/-- A line, counted from one, and a column, counted from zero. -/
structure Position where
  line : Nat
  column : Nat
deriving DecidableEq, Repr

/-- Moves a position over some text. A carriage return, with or without a line feed behind it, and a
line feed each start a line. -/
def Position.advance : (p : Position) → (afterReturn : Bool) → List Char → Position
  | p, _, [] => p
  | p, afterReturn, '\n' :: cs =>
    if afterReturn then advance p false cs else advance ⟨p.line + 1, 0⟩ false cs
  | p, _, '\r' :: cs => advance ⟨p.line + 1, 0⟩ true cs
  | p, _, _ :: cs => advance ⟨p.line, p.column + 1⟩ false cs

def Position.start : Position := ⟨1, 0⟩

def Position.ofRest (text rest : List Char) : Position :=
  Position.start.advance false (text.take (text.length - rest.length))

structure Located where
  fault : Fault
  position : Position
deriving DecidableEq, Repr

end VideoWall.Xml
