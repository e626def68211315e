import VideoWall.Xml.Fault
import VideoWall.Xml.Scan

/-!
# Namespaces

Qualifiers are bound to namespaces by attributes of the elements around. A name consists of its
namespace and its local part.
-/

namespace VideoWall.Xml

/-- A name with its namespace, empty if there is none, and the qualifier that stood for it. -/
structure Name where
  space : String
  base : String
  qualifier : String
deriving DecidableEq, Repr, Inhabited

/-- The bindings of qualifiers, innermost first; the empty qualifier is the default. -/
abbrev Bindings := List (List Char × List Char)

namespace Bindings

def xmlNamespace : List Char := "http://www.w3.org/XML/1998/namespace".toList

def xmlnsNamespace : List Char := "http://www.w3.org/2000/xmlns/".toList

def initial : Bindings := [(['x', 'm', 'l'], xmlNamespace)]

/-- The namespace of a qualifier. An empty namespace is none. -/
def find? (b : Bindings) (qualifier : List Char) : Option (List Char) :=
  match b.lookup qualifier with
  | some space => if space.isEmpty then none else some space
  | none => none

/-- A character that no address of a namespace may contain; it would end the address where names are
written with their namespaces. -/
def isForbidden (closer c : Char) : Bool := c == closer

def bindingFault? (closer : Char) (qualifier space : List Char) : Option Fault :=
  let isXml := qualifier == ['x', 'm', 'l']
  if space.isEmpty && !qualifier.isEmpty then some .undeclaredQualifier
  else if qualifier == ['x', 'm', 'l', 'n', 's'] then some .reservedXmlns
  else if space.any (isForbidden closer) then some .syntaxError
  else if isXml && space != xmlNamespace then some .reservedXml
  else if !isXml && (space == xmlNamespace || space == xmlnsNamespace) then
    some .reservedNamespace
  else none

end Bindings

def RawName.declares? (n : RawName) : Option (List Char) :=
  match n.qualifier with
  | none => if n.base == ['x', 'm', 'l', 'n', 's'] then some [] else none
  | some q => if q == ['x', 'm', 'l', 'n', 's'] then some n.base else none

/-- The name of an element: its qualifier, or the default, stands for its namespace. -/
def RawName.elementName? (n : RawName) (b : Bindings) : Option Name :=
  match n.qualifier with
  | some q =>
    (b.find? q).map fun space => ⟨String.ofList space, String.ofList n.base, String.ofList q⟩
  | none => some ⟨String.ofList ((b.find? []).getD []), String.ofList n.base, ""⟩

/-- The name of an attribute: only a qualifier stands for a namespace. -/
def RawName.attributeName? (n : RawName) (b : Bindings) : Option Name :=
  match n.qualifier with
  | some q =>
    (b.find? q).map fun space => ⟨String.ofList space, String.ofList n.base, String.ofList q⟩
  | none => some ⟨"", String.ofList n.base, ""⟩

end VideoWall.Xml
