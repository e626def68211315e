import VideoWall.Text.Replace

/-!
# Paths

Paths of files as texts and as lists of segments. Nothing here looks at a file system, so a path leads to a
place by its segments alone: symbolic links are not followed, and a loop of them, which could not be resolved,
does not occur.
-/

namespace VideoWall.Path

/-- The segments of a path, without those that lead nowhere. -/
def segments (path : String) : List String :=
  ((Text.splitAt '/' path.toList).filter fun s => !s.isEmpty && s != ['.']).map String.ofList

def isAbsolute (path : String) : Bool :=
  path.toList.head? == some '/'

/-- Goes down one segment, or up one for the segment of two points. -/
def enter (base : List String) (segment : String) : List String :=
  if segment == ".." then base.dropLast else base ++ [segment]

def start (base : List String) (path : String) : List String :=
  if isAbsolute path then [] else base

def resolve (base : List String) (path : String) : List String :=
  (segments path).foldl enter (start base path)

/-- The places that a path that is seen from a directory passes on the way to its last segment, that
of the start first. -/
def placesBefore (base : List String) (path : String) : List (List String) :=
  (List.range (segments path).length).map fun n =>
    ((segments path).take n).foldl enter (start base path)

def toText (segments : List String) : String :=
  "/" ++ String.intercalate "/" segments

/-- The start of an absolute path: one slash, or two if the path starts with exactly two. -/
def rootOf (path : String) : String :=
  match path.toList with
  | '/' :: '/' :: '/' :: _ => "/"
  | '/' :: '/' :: _ => "//"
  | '/' :: _ => "/"
  | _ => ""

/-- The text of a path of the given segments that starts where another path does; the start itself is
written as a point if it is not the root. -/
def textFrom (path : String) (segments : List String) : String :=
  let text := rootOf path ++ String.intercalate "/" segments
  if text.isEmpty then "." else text

def normal (path : String) : String :=
  textFrom path (segments path)

def parent (path : String) : String :=
  textFrom path (segments path).dropLast

inductive Entry where
  | file (bytes : List UInt8)
  | directory

end VideoWall.Path
