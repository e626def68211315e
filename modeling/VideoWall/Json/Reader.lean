import VideoWall.Json.Value

/-!
# Reading JSON

Any JSON text without fractions and exponents is read as its value: blanks may stand between the parts
of a text, and a character of a string may be escaped in each way that there is.
-/

namespace VideoWall.JsonValue

def isBlank (c : Char) : Bool :=
  c == ' ' || c == '\t' || c == '\n' || c == '\r'

def skip (cs : List Char) : List Char :=
  cs.dropWhile isBlank

/-! ## 1. Strings -/

def escaped? (c : Char) : Option Char :=
  match c with
  | '"' | '\\' | '/' => some c
  | 'b' => some '\x08'
  | 'f' => some '\x0c'
  | 'n' => some '\n'
  | 'r' => some '\r'
  | 't' => some '\t'
  | _ => none

def unit? (a b c d : Char) : Option Nat := do
  let w ← Text.hexValue? a
  let x ← Text.hexValue? b
  let y ← Text.hexValue? c
  let z ← Text.hexValue? d
  return ((w * 16 + x) * 16 + y) * 16 + z

/-- Whether a unit of sixteen bits is the first of two that make up a character. -/
def isHigh (n : Nat) : Bool := 0xD800 ≤ n && n ≤ 0xDBFF

def isLow (n : Nat) : Bool := 0xDC00 ≤ n && n ≤ 0xDFFF

def pairChar (high low : Nat) : Char :=
  Char.ofNat (0x10000 + (high - 0xD800) * 1024 + (low - 0xDC00))

def push (c : Char) (read : List Char × List Char) : List Char × List Char :=
  (c :: read.1, read.2)

/-- Reads the rest of a string up to its closing quote. -/
def stringBody? : List Char → Option (List Char × List Char)
  | [] => none
  | '"' :: cs => some ([], cs)
  | '\\' :: 'u' :: a :: b :: c :: d :: cs =>
    match unit? a b c d with
    | none => none
    | some n =>
      if isLow n then none
      else if isHigh n then
        match cs with
        | '\\' :: 'u' :: e :: f :: g :: h :: cs =>
          match unit? e f g h with
          | none => none
          | some m => if isLow m then (stringBody? cs).map (push (pairChar n m)) else none
        | _ => none
      else (stringBody? cs).map (push (Char.ofNat n))
  | '\\' :: c :: cs =>
    match escaped? c with
    | none => none
    | some e => (stringBody? cs).map (push e)
  | c :: cs => if c.toNat < 0x20 || c == '\\' then none else (stringBody? cs).map (push c)

def string? : List Char → Option (String × List Char)
  | '"' :: cs => (stringBody? cs).map fun (s, rest) => (String.ofList s, rest)
  | _ => none

/-! ## 2. Integers -/

/-- Reads a number without a sign; it has no zero in front, and neither a fraction nor an exponent. -/
def natural? (cs : List Char) : Option (Nat × List Char) :=
  let digits := cs.takeWhile Text.isAsciiDigit
  let rest := cs.dropWhile Text.isAsciiDigit
  let n := Text.ofDigits (digits.filterMap Text.digitValue?)
  let isFraction := match rest with
    | c :: _ => c == '.' || c == 'e' || c == 'E'
    | [] => false
  match digits with
  | [] => none
  | '0' :: _ :: _ => none
  | _ => if isFraction then none else some (n, rest)

def integer? : List Char → Option (Int × List Char)
  | '-' :: cs => (natural? cs).map fun (n, rest) => (-(n : Int), rest)
  | cs => (natural? cs).map fun (n, rest) => ((n : Int), rest)

/-! ## 3. Values -/

mutual

/-- Reads a value, at most `depth` calls deep. -/
def value? : (depth : Nat) → List Char → Option (JsonValue × List Char)
  | 0, _ => none
  | n + 1, cs =>
    match skip cs with
    | 'n' :: 'u' :: 'l' :: 'l' :: rest => some (.null, rest)
    | 't' :: 'r' :: 'u' :: 'e' :: rest => some (.bool true, rest)
    | 'f' :: 'a' :: 'l' :: 's' :: 'e' :: rest => some (.bool false, rest)
    | '"' :: cs => (string? ('"' :: cs)).map fun (s, rest) => (.string s, rest)
    | '[' :: cs =>
      match skip cs with
      | ']' :: rest => some (.array [], rest)
      | cs => (items? n cs).map fun (vs, rest) => (.array vs, rest)
    | '\x7b' :: cs =>
      match skip cs with
      | '\x7d' :: rest => some (.object [], rest)
      | cs => (fields? n cs).map fun (fs, rest) => (.object fs, rest)
    | cs => (integer? cs).map fun (i, rest) => (.int i, rest)

def items? : (depth : Nat) → List Char → Option (List JsonValue × List Char)
  | 0, _ => none
  | n + 1, cs => do
    let (v, rest) ← value? n cs
    match skip rest with
    | ',' :: cs => (items? n cs).map fun (vs, rest) => (v :: vs, rest)
    | ']' :: rest => some ([v], rest)
    | _ => none

def fields? : (depth : Nat) → List Char → Option (List (String × JsonValue) × List Char)
  | 0, _ => none
  | n + 1, cs => do
    let (k, rest) ← string? (skip cs)
    match skip rest with
    | ':' :: cs =>
      let (v, rest) ← value? n cs
      match skip rest with
      | ',' :: cs => (fields? n cs).map fun (fs, rest) => ((k, v) :: fs, rest)
      | '\x7d' :: rest => some ([(k, v)], rest)
      | _ => none
    | _ => none

end

/-- The value of a text. No value is deeper than its text is long. -/
def ofText? (text : String) : Option JsonValue :=
  match value? (2 * text.length + 2) text.toList with
  | some (v, rest) => if (skip rest).isEmpty then some v else none
  | none => none

theorem unit?_hex {n : Nat} (h : n < 0x10000) :
    ∃ a b c d, Text.hex 4 n = [a, b, c, d] ∧ unit? a b c d = some n := by
  refine ⟨_, _, _, _, rfl, ?_⟩
  simp only [unit?, Text.hexValue?_hexChar (Nat.mod_lt _ (by decide : 0 < 16)), bind,
    Option.bind_some, pure]
  congr 1
  omega

end VideoWall.JsonValue
