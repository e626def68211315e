import VideoWall.Json.Reader

/-!
# The grammar of JSON

Which texts denote a value. Blanks may stand between the parts of a text, a number has no zero in front, and
a character of a string stands for itself or is escaped in one of three ways. Numbers with a fraction or an
exponent are left out, as no value has one.
-/

namespace VideoWall.JsonValue

def AreBlank (cs : List Char) : Prop := ∀ c ∈ cs, isBlank c = true

/-! ## 1. Strings -/

def letters : List (Char × Char) :=
  [('"', '"'), ('\\', '\\'), ('/', '/'), ('b', '\x08'), ('f', '\x0c'), ('n', '\n'), ('r', '\r'), ('t', '\t')]

/-- Whether a text denotes a character of a string. -/
inductive SpellsChar (c : Char) : List Char → Prop where
  | plain : 0x20 ≤ c.toNat → c ≠ '"' → c ≠ '\\' → SpellsChar c [c]
  | letter {l : Char} : (l, c) ∈ letters → SpellsChar c ['\\', l]
  | unit {w x y z : Char} : unit? w x y z = some c.toNat → SpellsChar c ['\\', 'u', w, x, y, z]
  /-- Characters beyond sixteen bits take two units. -/
  | pair {w x y z w' x' y' z' : Char} {high low : Nat} : unit? w x y z = some high →
      unit? w' x' y' z' = some low → isHigh high = true → isLow low = true →
      c.toNat = 0x10000 + (high - 0xD800) * 0x400 + (low - 0xDC00) →
      SpellsChar c ['\\', 'u', w, x, y, z, '\\', 'u', w', x', y', z']

inductive SpellsChars : List Char → List Char → Prop where
  | nil : SpellsChars [] []
  | cons {c : Char} {s cs ds : List Char} : SpellsChar c cs → SpellsChars s ds → SpellsChars (c :: s) (cs ++ ds)

/-! ## 2. Integers -/

structure SpellsNatural (n : Nat) (cs : List Char) : Prop where
  nonempty : cs ≠ []
  digits : ∀ c ∈ cs, Text.isAsciiDigit c = true
  no_zero_in_front : cs.head? = some '0' → cs = ['0']
  value : Text.ofDigits (cs.filterMap Text.digitValue?) = n

inductive SpellsInt : Int → List Char → Prop where
  | plain {n : Nat} {cs : List Char} : SpellsNatural n cs → SpellsInt n cs
  | minus {n : Nat} {cs : List Char} : SpellsNatural n cs → SpellsInt (-n) ('-' :: cs)

/-! ## 3. Values -/

mutual

/-- Whether a text denotes a value, without blanks around it. -/
inductive Spells : JsonValue → List Char → Prop where
  | null : Spells .null ['n', 'u', 'l', 'l']
  | yes : Spells (.bool true) ['t', 'r', 'u', 'e']
  | no : Spells (.bool false) ['f', 'a', 'l', 's', 'e']
  | int {i : Int} {cs : List Char} : SpellsInt i cs → Spells (.int i) cs
  | string {s : String} {cs : List Char} : SpellsChars s.toList cs → Spells (.string s) ('"' :: (cs ++ ['"']))
  | emptyArray {bs : List Char} : AreBlank bs → Spells (.array []) ('[' :: (bs ++ [']']))
  | array {vs : List JsonValue} {cs : List Char} : SpellsItems vs cs → Spells (.array vs) ('[' :: (cs ++ [']']))
  | emptyObject {bs : List Char} : AreBlank bs → Spells (.object []) ('\x7b' :: (bs ++ ['\x7d']))
  | object {fs : List (String × JsonValue)} {cs : List Char} : SpellsFields fs cs →
      Spells (.object fs) ('\x7b' :: (cs ++ ['\x7d']))

inductive SpellsSpaced : JsonValue → List Char → Prop where
  | mk {v : JsonValue} {before cs after : List Char} : AreBlank before → Spells v cs → AreBlank after →
      SpellsSpaced v (before ++ (cs ++ after))

inductive SpellsItems : List JsonValue → List Char → Prop where
  | last {v : JsonValue} {cs : List Char} : SpellsSpaced v cs → SpellsItems [v] cs
  | more {v : JsonValue} {vs : List JsonValue} {cs ds : List Char} : SpellsSpaced v cs → SpellsItems vs ds →
      SpellsItems (v :: vs) (cs ++ ',' :: ds)

inductive SpellsField : String → JsonValue → List Char → Prop where
  | mk {k : String} {v : JsonValue} {before ks after cs : List Char} : AreBlank before →
      SpellsChars k.toList ks → AreBlank after → SpellsSpaced v cs →
      SpellsField k v (before ++ '"' :: (ks ++ '"' :: (after ++ ':' :: cs)))

inductive SpellsFields : List (String × JsonValue) → List Char → Prop where
  | last {k : String} {v : JsonValue} {cs : List Char} : SpellsField k v cs → SpellsFields [(k, v)] cs
  | more {k : String} {v : JsonValue} {fs : List (String × JsonValue)} {cs ds : List Char} :
      SpellsField k v cs → SpellsFields fs ds → SpellsFields ((k, v) :: fs) (cs ++ ',' :: ds)

end

/-- Whether a function decodes JSON: it takes every text of the grammar to the value that the text denotes. -/
def IsDecoder (decode : String → Option JsonValue) : Prop :=
  ∀ (v : JsonValue) (cs : List Char), SpellsSpaced v cs → decode (String.ofList cs) = some v

end VideoWall.JsonValue
