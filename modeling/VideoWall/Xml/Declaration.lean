import VideoWall.Text.Digit
import VideoWall.Text.Replace
import VideoWall.Xml.Character

/-!
# The declaration of a document

The version, the encoding and the independence of a document, as its first line may declare them, in
this order and each at most once.
-/

namespace VideoWall.Xml

structure Declaration where
  /-- The name of the encoding, and the rest of the declaration from the name on. -/
  encoding : Option (List Char × List Char)
  standalone : Bool
deriving Repr

namespace Declaration

structure Field where
  name : List Char
  nameRest : List Char
  value : List Char
  valueRest : List Char
deriving Repr

def isValueChar (c : Char) : Bool :=
  Text.isAsciiLetter c || Text.isAsciiDigit c || c == '.' || c == '-' || c == '_'

/-- Whether a character may stand in a name: any ASCII character but white space and the equals
sign. -/
def isFieldNameChar (c : Char) : Bool :=
  c.toNat < 0x80 && c != '=' && !isSpace c

def readValue (quote : Char) : List Char → Except (List Char) (List Char × List Char)
  | [] => .error []
  | c :: cs =>
    if c == quote then .ok ([], cs)
    else if isValueChar c then (readValue quote cs).map fun (v, rest) => (c :: v, rest)
    else .error (c :: cs)

def readQuoted (name nameRest cs : List Char) :
    Except (List Char) (Option Field × List Char) :=
  match cs.dropWhile isSpace with
  | [] => .error []
  | q :: rest =>
    if q == '"' || q == '\'' then
      (readValue q rest).map fun (v, behind) => (some ⟨name, nameRest, v, rest⟩, behind)
    else .error (q :: rest)

/-- Reads a name with its value, if there is one more; a fault gives the text from its place on. -/
def readField (cs : List Char) : Except (List Char) (Option Field × List Char) :=
  match cs with
  | [] => .ok (none, [])
  | c :: _ =>
    if !isSpace c then .error cs
    else
      let start := cs.dropWhile isSpace
      if start.isEmpty then .ok (none, cs)
      else
        let name := start.takeWhile isFieldNameChar
        match start.dropWhile isFieldNameChar with
        | [] => .error []
        | '=' :: rest => if name.isEmpty then .error ('=' :: rest) else readQuoted name start rest
        | d :: rest =>
          if isSpace d then
            match rest.dropWhile isSpace with
            | '=' :: rest => readQuoted name start rest
            | rest => .error rest
          else .error (d :: rest)

def readStandalone (encoding : Option (List Char × List Char)) (field : Option Field)
    (rest : List Char) : Except (List Char) Declaration :=
  match field with
  | none => .ok ⟨encoding, false⟩
  | some f =>
    if String.ofList f.name != "standalone" then .error f.nameRest
    else
      let value := String.ofList f.value
      if value != "yes" && value != "no" then .error f.valueRest
      else
        let rest := rest.dropWhile isSpace
        if rest.isEmpty then .ok ⟨encoding, value == "yes"⟩ else .error rest

/-- Reads a declaration from what stands behind its target; a fault gives the text from its place
on. -/
def read (cs : List Char) : Except (List Char) Declaration := do
  match ← readField cs with
  | (none, _) => .error cs
  | (some version, rest) =>
    if String.ofList version.name != "version" then .error version.nameRest
    else match ← readField rest with
      | (none, _) => .ok ⟨none, false⟩
      | (some f, rest) =>
        if String.ofList f.name == "encoding" then
          if f.value.head?.any Text.isAsciiLetter then
            let (field, rest) ← readField rest
            readStandalone (some (f.value, f.valueRest)) field rest
          else .error f.valueRest
        else readStandalone none (some f) rest

end Declaration

end VideoWall.Xml
