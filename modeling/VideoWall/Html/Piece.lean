/-!
# Pieces of HTML

A page is put together from markup, which is written as it stands, and text, which is escaped. What
comes from outside is text, so it can neither open nor close a tag or an attribute.
-/

namespace VideoWall.Html

inductive Piece where
  | markup (s : String)
  /-- Text from outside. -/
  | text (s : String)
deriving DecidableEq, Repr

/-- A character of a text, with the characters that have a meaning in markup written as references. -/
def escapeChar (c : Char) : List Char :=
  match c with
  | '&' => ['&', 'a', 'm', 'p', ';']
  | '<' => ['&', 'l', 't', ';']
  | '>' => ['&', 'g', 't', ';']
  | '"' => ['&', '#', '3', '4', ';']
  | '\'' => ['&', '#', '3', '9', ';']
  | c => [c]

def escape (cs : List Char) : List Char :=
  cs.flatMap escapeChar

def Piece.chars : Piece → List Char
  | markup s => s.toList
  | text s => escape s.toList

def charsOf (pieces : List Piece) : List Char :=
  pieces.flatMap Piece.chars

def render (pieces : List Piece) : String :=
  String.ofList (charsOf pieces)

end VideoWall.Html
