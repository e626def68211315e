import VideoWall.Xml.Declaration
import VideoWall.Xml.Encoding

/-!
# The grammar of declarations

Which encoding a document declares, and which names of encodings are known, said without a reader. The
declaration stands at the very start of the document: the version, the encoding, and then perhaps whether
the document is independent.
-/

namespace VideoWall.Xml

def AreSpaces (cs : List Char) : Prop := ∀ c ∈ cs, isSpace c = true

namespace Declaration

/-- Whether a text writes a name with a value: white space in front, an equals sign between the two, and
quotes around the value. -/
inductive Writes (name value : List Char) : List Char → Prop where
  | field {space before behind : List Char} {quote : Char} : space ≠ [] → AreSpaces space →
      AreSpaces before → AreSpaces behind → quote = '"' ∨ quote = '\'' →
      (∀ c ∈ value, isValueChar c = true) →
      Writes name value (space ++ (name ++ (before ++ '=' :: (behind ++ quote :: (value ++ [quote])))))

/-- Whether a text may stand behind the encoding: white space, and before it perhaps whether the document
is independent. -/
inductive Closes : List Char → Prop where
  | bare {space : List Char} : AreSpaces space → Closes space
  | standalone {value field space : List Char} : value = "yes".toList ∨ value = "no".toList →
      Writes "standalone".toList value field → AreSpaces space → Closes (field ++ space)

/-- Whether a text behind the target of a declaration names an encoding. -/
inductive NamesEncoding (name : List Char) : List Char → Prop where
  | behind {version field field' rest : List Char} : Writes "version".toList version field →
      Writes "encoding".toList name field' → name.head?.any Text.isAsciiLetter = true → Closes rest →
      NamesEncoding name (field ++ (field' ++ rest))

end Declaration

/-- Whether the bytes of a document declare the name of an encoding. -/
def Declares (bytes : List UInt8) (name : List Char) : Prop :=
  ∃ recognised hasMark behind body rest, Encoding.recognise bytes = .encoded recognised hasMark behind ∧
    (recognised.decode behind).chars = "<?xml".toList ++ (body ++ ("?>".toList ++ rest)) ∧
    Declaration.NamesEncoding name body

namespace Encoding

def plainNames : List String :=
  ["utf-8", "iso-8859-1", "us-ascii", "utf-16", "utf-16be", "utf-16le"]

/-- Whether a name is listed among those of encodings of text. -/
def IsListed (name : String) : Prop :=
  (∃ p ∈ Text.CodePage.all, name ∈ p.names) ∨ name ∈ Text.CodePage.escapingNames ∨
    name ∈ Text.CodePage.foreignNames ∨ name ∈ Text.CodePage.multiByteNames ∨
    name ∈ ["idna", "undefined", "punycode"]

instance (name : String) : Decidable (IsListed name) :=
  inferInstanceAs (Decidable (_ ∨ _))

/-- Whether a name stands for an encoding of text, in letters of any case. -/
def IsKnown (name : List Char) : Prop :=
  String.ofList (name.map Text.asciiLower) ∈ plainNames ∨
    IsListed (listedName (String.ofList (normalName false name)))

instance (name : List Char) : Decidable (IsKnown name) :=
  inferInstanceAs (Decidable (_ ∨ _))

end Encoding

end VideoWall.Xml
