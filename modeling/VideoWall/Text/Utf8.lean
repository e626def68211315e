/-!
# UTF-8

Characters as bytes and back. A sequence that is broken off or malformed reads as one replacement
character for its longest start that could still have become a character.
-/

namespace VideoWall.Text.Utf8

def encodeChar (c : Char) : List UInt8 :=
  let n := c.toNat
  if n < 0x80 then [n.toUInt8]
  else if n < 0x800 then [(0xC0 + n / 64).toUInt8, (0x80 + n % 64).toUInt8]
  else if n < 0x10000 then
    [(0xE0 + n / 4096).toUInt8, (0x80 + n / 64 % 64).toUInt8, (0x80 + n % 64).toUInt8]
  else
    [(0xF0 + n / 262144).toUInt8, (0x80 + n / 4096 % 64).toUInt8, (0x80 + n / 64 % 64).toUInt8,
      (0x80 + n % 64).toUInt8]

def encode (cs : List Char) : List UInt8 :=
  cs.flatMap encodeChar

/-- How many bytes follow a first byte, what the first byte contributes, and the range of the second
byte, which keeps out long forms, surrogates and values beyond the last code point. -/
def lead? (b : UInt8) : Option (Nat × Nat × Nat × Nat) :=
  let n := b.toNat
  if 0xC2 ≤ n && n ≤ 0xDF then some (1, n - 0xC0, 0x80, 0xBF)
  else if n == 0xE0 then some (2, 0, 0xA0, 0xBF)
  else if n == 0xED then some (2, 0xD, 0x80, 0x9F)
  else if 0xE1 ≤ n && n ≤ 0xEF then some (2, n - 0xE0, 0x80, 0xBF)
  else if n == 0xF0 then some (3, 0, 0x90, 0xBF)
  else if 0xF1 ≤ n && n ≤ 0xF3 then some (3, n - 0xF0, 0x80, 0xBF)
  else if n == 0xF4 then some (3, 4, 0x80, 0x8F)
  else none

/-- Reads bytes as they come: `need` bytes are still missing from a character whose bits so far are
`acc`, and the next one lies from `low` to `high`. A broken character gives `none`. -/
def readBytes : (need acc low high : Nat) → List UInt8 → List (Option Char)
  | 0, _, _, _, [] => []
  | _ + 1, _, _, _, [] => [none]
  | 0, _, _, _, b :: bs =>
    if b.toNat < 0x80 then some (Char.ofNat b.toNat) :: readBytes 0 0 0 0 bs
    else match lead? b with
      | some (need, acc, low, high) => readBytes need acc low high bs
      | none => none :: readBytes 0 0 0 0 bs
  | need + 1, acc, low, high, b :: bs =>
    if low ≤ b.toNat && b.toNat ≤ high then
      let acc := acc * 64 + (b.toNat - 0x80)
      if need = 0 then some (Char.ofNat acc) :: readBytes 0 0 0 0 bs
      else readBytes need acc 0x80 0xBF bs
    else if b.toNat < 0x80 then none :: some (Char.ofNat b.toNat) :: readBytes 0 0 0 0 bs
    else match lead? b with
      | some (need, acc, low, high) => none :: readBytes need acc low high bs
      | none => none :: none :: readBytes 0 0 0 0 bs

def read (bs : List UInt8) : List (Option Char) :=
  readBytes 0 0 0 0 bs

/-- The text of a byte sequence, with a replacement character for each broken one. -/
def decodeLossy (bs : List UInt8) : List Char :=
  (read bs).map (·.getD '\uFFFD')

def decode? (bs : List UInt8) : Option (List Char) :=
  (read bs).mapM id

theorem readBytes_ascii (c : Char) (h : c.toNat < 0x80) (bs : List UInt8) :
    readBytes 0 0 0 0 (encodeChar c ++ bs) = some c :: readBytes 0 0 0 0 bs := by
  have h256 : c.toNat % 256 = c.toNat := Nat.mod_eq_of_lt (by omega)
  simp [encodeChar, h, readBytes, h256]

end VideoWall.Text.Utf8
