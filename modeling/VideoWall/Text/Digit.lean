/-!
# Decimal digits

The decimal digits of every script, with their values. Each script keeps its ten digits in one run,
so a run is known by its zero.
-/

namespace VideoWall.Text

/-- The code points of the zeros of all scripts, in ascending order. -/
def zeroDigits : List Nat :=
  [
    0x30, 0x660, 0x6F0, 0x7C0, 0x966, 0x9E6, 0xA66, 0xAE6, 0xB66, 0xBE6,
    0xC66, 0xCE6, 0xD66, 0xDE6, 0xE50, 0xED0, 0xF20, 0x1040, 0x1090, 0x17E0,
    0x1810, 0x1946, 0x19D0, 0x1A80, 0x1A90, 0x1B50, 0x1BB0, 0x1C40, 0x1C50, 0xA620,
    0xA8D0, 0xA900, 0xA9D0, 0xA9F0, 0xAA50, 0xABF0, 0xFF10, 0x104A0, 0x10D30, 0x11066,
    0x110F0, 0x11136, 0x111D0, 0x112F0, 0x11450, 0x114D0, 0x11650, 0x116C0, 0x11730, 0x118E0,
    0x11950, 0x11C50, 0x11D50, 0x11DA0, 0x16A60, 0x16AC0, 0x16B50, 0x1D7CE, 0x1D7D8, 0x1D7E2,
    0x1D7EC, 0x1D7F6, 0x1E140, 0x1E2F0, 0x1E950, 0x1FBF0]

def digitValue? (c : Char) : Option Nat :=
  if c.toNat < 0x80 then
    if 0x30 ≤ c.toNat && c.toNat ≤ 0x39 then some (c.toNat - 0x30) else none
  else
    (zeroDigits.find? fun z => z ≤ c.toNat && c.toNat < z + 10).map (c.toNat - ·)

def isDigit (c : Char) : Bool :=
  (digitValue? c).isSome

def isAsciiDigit (c : Char) : Bool :=
  0x30 ≤ c.toNat && c.toNat ≤ 0x39

/-- Reads digits most significant first, on top of a value already read. -/
def digitsOnto (acc : Nat) : List Nat → Nat
  | [] => acc
  | d :: ds => digitsOnto (10 * acc + d) ds

def ofDigits (ds : List Nat) : Nat :=
  digitsOnto 0 ds

def digitChar (d : Nat) : Char :=
  Char.ofNat (0x30 + d)

/-- The decimal digits of a number, most significant first, in front of what follows. -/
def decimalOnto (n : Nat) (rest : List Char) : List Char :=
  if n < 10 then digitChar n :: rest else decimalOnto (n / 10) (digitChar (n % 10) :: rest)
termination_by n

def decimal (n : Nat) : List Char :=
  decimalOnto n []

def decimalInt (n : Int) : List Char :=
  if n < 0 then '-' :: decimal n.natAbs else decimal n.natAbs

/-- A number in decimal, filled with zeros on the left to at least `width` characters. -/
def padded (width n : Nat) : List Char :=
  let ds := decimal n
  List.replicate (width - ds.length) '0' ++ ds

def ofNat (n : Nat) : String :=
  String.ofList (decimal n)

def ofInt (n : Int) : String :=
  String.ofList (decimalInt n)

def hexValue? (c : Char) : Option Nat :=
  let n := c.toNat
  if 0x30 ≤ n && n ≤ 0x39 then some (n - 0x30)
  else if 0x41 ≤ n && n ≤ 0x46 then some (n - 0x37)
  else if 0x61 ≤ n && n ≤ 0x66 then some (n - 0x57)
  else none

def hexChar (d : Nat) : Char :=
  if d < 10 then Char.ofNat (0x30 + d) else Char.ofNat (0x57 + d)

/-- The last `width` hexadecimal digits of a number. -/
def hex : (width : Nat) → Nat → List Char
  | 0, _ => []
  | w + 1, n => hex w (n / 16) ++ [hexChar (n % 16)]

theorem digitValue?_digitChar {d : Nat} (h : d < 10) : digitValue? (digitChar d) = some d := by
  match d, h with
  | 0, _ | 1, _ | 2, _ | 3, _ | 4, _ | 5, _ | 6, _ | 7, _ | 8, _ | 9, _ => decide

theorem digitsOnto_append (acc : Nat) (xs ys : List Nat) :
    digitsOnto acc (xs ++ ys) = digitsOnto (digitsOnto acc xs) ys := by
  induction xs generalizing acc with
  | nil => rfl
  | cons x xs ih => exact ih (10 * acc + x)

theorem decimalOnto_eq (n : Nat) (rest : List Char) : decimalOnto n rest = decimal n ++ rest := by
  induction n using Nat.strongRecOn generalizing rest with
  | _ n ih =>
    unfold decimal
    rw [decimalOnto, decimalOnto.eq_1 n []]
    by_cases h : n < 10
    · rw [if_pos h, if_pos h]
      rfl
    · have hn : n / 10 < n := by omega
      rw [if_neg h, if_neg h, ih _ hn, ih _ hn [digitChar (n % 10)], List.append_assoc]
      rfl

theorem decimal_of_lt {n : Nat} (h : n < 10) : decimal n = [digitChar n] := by
  rw [decimal, decimalOnto, if_pos h]

theorem decimal_of_le {n : Nat} (h : 10 ≤ n) :
    decimal n = decimal (n / 10) ++ [digitChar (n % 10)] := by
  rw [decimal, decimalOnto, if_neg (by omega), decimalOnto_eq]

theorem ofDigits_decimal (n : Nat) : ofDigits ((decimal n).filterMap digitValue?) = n := by
  induction n using Nat.strongRecOn with
  | _ n ih =>
    by_cases h : n < 10
    · simp [decimal_of_lt h, digitValue?_digitChar h, ofDigits, digitsOnto]
    · have hn := ih (n / 10) (by omega)
      have hd : digitValue? (digitChar (n % 10)) = some (n % 10) :=
        digitValue?_digitChar (by omega)
      rw [decimal_of_le (by omega), List.filterMap_append, ofDigits, digitsOnto_append,
        ← ofDigits, hn]
      simp only [List.filterMap_cons, List.filterMap_nil, hd, digitsOnto]
      omega

theorem hexValue?_hexChar {d : Nat} (h : d < 16) : hexValue? (hexChar d) = some d := by
  have all : ∀ d < 16, hexValue? (hexChar d) = some d := by decide
  exact all d h

end VideoWall.Text
