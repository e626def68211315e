import VideoWall.Xml.Reader

/-!
# Trees of elements

A document as a tree: an element has a name, the text in front of its first child, and its children.
-/

namespace VideoWall.Xml

inductive Element where
  /-- An element with its name, the text in front of its first child, if there is any, and its
  children. -/
  | node (name : Name) (text : Option String) (children : List Element)
deriving Repr, Inhabited

namespace Element

def name : Element → Name
  | node n _ _ => n

def text : Element → Option String
  | node _ t _ => t

def children : Element → List Element
  | node _ _ cs => cs

def isNamed (tag : String) (e : Element) : Bool :=
  e.name.space.isEmpty && e.name.base == tag

def find? (e : Element) (tag : String) : Option Element :=
  e.children.find? (isNamed tag)

/-- The text of the first child of a name; empty if that child has none. -/
def findText? (e : Element) (tag : String) : Option String :=
  (e.find? tag).map fun c => c.text.getD ""

theorem isNamed_unique {tag tag' : String} {e : Element} (h : e.isNamed tag = true)
    (h' : e.isNamed tag' = true) : tag = tag' := by
  simp only [isNamed, Bool.and_eq_true, beq_iff_eq] at h h'
  exact h.2.symm.trans h'.2

/-! ## Building -/

/-- An element that is being built: its name, its text and its children, last ones first. -/
structure Partial where
  name : Name
  text : List (List Char)
  children : List Element
deriving Repr

def Partial.finish (p : Partial) : Element :=
  let text := if p.text.isEmpty then none else some (String.ofList p.text.reverse.flatten)
  node p.name text p.children.reverse

/-- Adds text, which counts only in front of the first child. -/
def Partial.addText (p : Partial) (cs : List Char) : Partial :=
  if p.children.isEmpty then { p with text := cs :: p.text } else p

/-- Builds the tree of events, innermost open element first. -/
def build : List Partial → List Event → Option Element
  | _, [] => none
  | open_, .start name _ _ :: es => build (⟨name, [], []⟩ :: open_) es
  | [], .finish _ :: _ => none
  | [p], .finish _ :: _ => some p.finish
  | p :: q :: open_, .finish _ :: es =>
    build ({ q with children := p.finish :: q.children } :: open_) es
  | [], .text _ :: es => build [] es
  | p :: open_, .text cs :: es => build (p.addText cs :: open_) es

def ofEvents? (es : List Event) : Option Element := build [] es

end Element

/-- How configuration files are read: every entity has to be known. -/
def treeOptions : ReaderOptions := ⟨true, '\x7d'⟩

def readTree (bytes : List UInt8) : Except ReadFault Element :=
  match readDocument treeOptions bytes with
  | .error f => .error f
  | .ok events =>
    match Element.ofEvents? events with
    | some e => .ok e
    | none => .error (.notWellFormed ⟨.noElement, .start⟩)

end VideoWall.Xml
