import VideoWall.Text.Digit

/-!
# JSON values and their text

A JSON value and its text with one item or field to a line, two spaces of indentation for each level
and no escapes but the necessary ones.
-/

namespace VideoWall

/-- A JSON value without fractions. -/
inductive JsonValue where
  | null
  | bool (b : Bool)
  | int (n : Int)
  | string (s : String)
  | array (items : List JsonValue)
  | object (fields : List (String × JsonValue))
deriving Repr, Inhabited

namespace JsonValue

def escapeChar (c : Char) : List Char :=
  if c == '"' then ['\\', '"']
  else if c == '\\' then ['\\', '\\']
  else if c == '\n' then ['\\', 'n']
  else if c == '\r' then ['\\', 'r']
  else if c == '\t' then ['\\', 't']
  else if c.toNat == 0x08 then ['\\', 'b']
  else if c.toNat == 0x0C then ['\\', 'f']
  else if c.toNat < 0x20 then '\\' :: 'u' :: Text.hex 4 c.toNat
  else [c]

def stringChars (s : String) : List Char :=
  '"' :: s.toList.flatMap escapeChar ++ ['"']

def newline (level : Nat) : List Char :=
  '\n' :: List.replicate (2 * level) ' '

mutual

def chars (level : Nat) : JsonValue → List Char
  | null => ['n', 'u', 'l', 'l']
  | bool true => ['t', 'r', 'u', 'e']
  | bool false => ['f', 'a', 'l', 's', 'e']
  | int n => Text.decimalInt n
  | string s => stringChars s
  | array [] => ['[', ']']
  | array (v :: vs) =>
    '[' :: newline (level + 1) ++ chars (level + 1) v ++ itemsChars (level + 1) vs ++
      newline level ++ [']']
  | object [] => ['\x7b', '\x7d']
  | object ((k, v) :: fs) =>
    '\x7b' :: newline (level + 1) ++ stringChars k ++ ':' :: ' ' :: chars (level + 1) v ++
      fieldsChars (level + 1) fs ++ newline level ++ ['\x7d']

def itemsChars (level : Nat) : List JsonValue → List Char
  | [] => []
  | v :: vs => ',' :: newline level ++ chars level v ++ itemsChars level vs

def fieldsChars (level : Nat) : List (String × JsonValue) → List Char
  | [] => []
  | (k, v) :: fs =>
    ',' :: newline level ++ stringChars k ++ ':' :: ' ' :: chars level v ++ fieldsChars level fs

end

def toText (v : JsonValue) : String :=
  String.ofList (chars 0 v)

end JsonValue

end VideoWall
