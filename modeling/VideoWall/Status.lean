/-!
# Status of a cycle

How complete the items of one update cycle are.
-/

namespace VideoWall

inductive Status where
  | complete
  /-- Something failed and there are items. -/
  | someMissing
  /-- Something failed and there are no items. -/
  | nothing
deriving DecidableEq, Repr, Inhabited

namespace Status

def word : Status → String
  | complete => "ok"
  | someMissing => "partial"
  | nothing => "empty-with-error"

def all : List Status := [complete, someMissing, nothing]

def ofWord? (s : String) : Option Status :=
  all.find? (·.word == s)

end Status

end VideoWall
