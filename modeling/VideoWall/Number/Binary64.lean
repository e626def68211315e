import VideoWall.Text.Digit

/-!
# Binary floating-point numbers of 64 bits

A finite number is a sign, a significand below `2 ^ 53` and a power of two from `-1074` to `971`.
Fractions are rounded to the nearest such number, ties going to the even significand, and a number is
written with the fewest decimal digits that read back as the same number.
-/

namespace VideoWall

inductive Binary64 where
  /-- The number `± significand * 2 ^ exponent`. -/
  | finite (negative : Bool) (significand : Nat) (exponent : Int)
  | infinite (negative : Bool)
  | nan
deriving DecidableEq, Repr, Inhabited

namespace Binary64

def twoTo (k : Nat) : Nat := Nat.pow 2 k

def tenTo (k : Nat) : Nat := Nat.pow 10 k

/-! ## 1. Rounding -/

def minExponent : Int := -1074

def maxExponent : Int := 971

/-- `num / den` rounded to the nearest integer, a half going to the even neighbour. -/
def roundHalfEven (num den : Nat) : Nat :=
  let q := num / den
  let r := num % den
  if 2 * r < den then q
  else if den < 2 * r then q + 1
  else if q % 2 = 0 then q else q + 1

/-- The fraction `num / den` divided by `2 ^ e`, as a numerator and a denominator. -/
def scaled (num den : Nat) (e : Int) : Nat × Nat :=
  match e with
  | .ofNat k => (num, den * twoTo k)
  | .negSucc k => (num * twoTo (k + 1), den)

/-- The exponent at which a positive fraction has a significand of 53 bits, or the least exponent. -/
def exponentFor (num den : Nat) : Int :=
  let guess : Int := (num.log2 : Int) - (den.log2 : Int) - 52
  -- The quotient lies between `2 ^ (guess + 51)` and `2 ^ (guess + 53)`.
  let (n, d) := scaled num den guess
  let e := if n < d * twoTo 52 then guess - 1 else guess
  max e minExponent

/-- The number nearest to the fraction `num / den`. -/
def ofRatio (negative : Bool) (num den : Nat) : Binary64 :=
  if num = 0 then finite negative 0 minExponent
  else
    let e := exponentFor num den
    let (n, d) := scaled num den e
    let m := roundHalfEven n d
    let (m, e) := if m = twoTo 53 then (twoTo 52, e + 1) else (m, e)
    if maxExponent < e then infinite negative else finite negative m e

def ofIntRatio (num : Int) (den : Nat) : Binary64 :=
  ofRatio (num < 0) num.natAbs den

/-- The number nearest to `digits * 10 ^ exponent`. Exponents far outside the range of the format are
decided without computing the power. -/
def ofDecimal (negative : Bool) (digits : Nat) (exponent : Int) : Binary64 :=
  let size : Int := (Text.decimal digits).length
  if digits = 0 then finite negative 0 minExponent
  else if 400 < exponent + size then infinite negative
  else if exponent + size < -400 then finite negative 0 minExponent
  else match exponent with
    | .ofNat k => ofRatio negative (digits * tenTo k) 1
    | .negSucc k => ofRatio negative digits (tenTo (k + 1))

/-- The integer part, toward zero; zero for what is not finite. -/
def truncate : Binary64 → Int
  | finite negative m e =>
    let n : Nat := match e with
      | .ofNat k => m * twoTo k
      | .negSucc k => m / twoTo (k + 1)
    if negative then -(n : Int) else n
  | infinite _ | nan => 0

/-! ## 2. Shortest decimal -/

/-- Whether the decimal `d * 10 ^ k` reads back as the positive number `m * 2 ^ e`. -/
def readsBack (m : Nat) (e : Int) (d : Nat) (k : Int) : Bool :=
  ofDecimal false d k == finite false m e

/-- Twice the distance from `d * 10 ^ k` to `m * 2 ^ e`, on a common scale for one `k`. -/
def distance (m : Nat) (e : Int) (d : Nat) (k : Int) : Nat :=
  let twos := twoTo (e - min e 0).toNat
  let halves := twoTo (-(min e 0)).toNat
  let tens := tenTo (k - min k 0).toNat
  let tenths := tenTo (-(min k 0)).toNat
  ((m * twos * tenths : Nat) - (d * tens * halves : Nat) : Int).natAbs

/-- The integer part of `m * 2 ^ e / 10 ^ k`. -/
def gridBelow (m : Nat) (e k : Int) : Nat :=
  let num := m * twoTo (e - min e 0).toNat * tenTo (-(min k 0)).toNat
  let den := twoTo (-(min e 0)).toNat * tenTo (k - min k 0).toNat
  num / den

/-- The nearest decimal on the grid of multiples of `10 ^ k` that reads back, if one does. -/
def onGrid? (m : Nat) (e k : Int) : Option Nat :=
  let low := gridBelow m e k
  let high := low + 1
  match readsBack m e low k, readsBack m e high k with
  | true, true =>
    let dl := distance m e low k
    let dh := distance m e high k
    if dl < dh then some low
    else if dh < dl then some high
    else if low % 2 = 0 then some low else some high
  | true, false => some low
  | false, true => some high
  | false, false => none

/-- The first grid, from coarse to fine, with a decimal that reads back. -/
def firstGrid (m : Nat) (e : Int) : (grids : Nat) → Int → Nat × Int
  | 0, k => (gridBelow m e k, k)
  | n + 1, k =>
    match onGrid? m e k with
    | some d => if d = 0 then firstGrid m e n (k - 1) else (d, k)
    | none => firstGrid m e n (k - 1)

/-- How many decimal digits the integer part of a positive number has, or minus the number of zeros
behind its point. -/
def decimalSize (m : Nat) (e : Int) : Int :=
  match e with
  | .ofNat k => (Text.decimal (m * twoTo k)).length
  | .negSucc k =>
    let whole := m / twoTo (k + 1)
    if whole ≠ 0 then (Text.decimal whole).length
    else
      -- The number is below one: count the zeros by scaling it up beyond one.
      let up := m * tenTo 400 / twoTo (k + 1)
      ((Text.decimal up).length : Int) - 400

/-- The digits of the shortest decimal of a positive number and the power of ten of the last one. -/
def shortest (m : Nat) (e : Int) : Nat × Int :=
  firstGrid m e 18 (decimalSize m e)

/-! ## 3. Text -/

def scientificFrom : Int := 16

def scientificBelow : Int := -4

/-- Decimal digits with the point behind the first `point` of them, and at least one digit on each
side of the point. -/
def positional (digits : List Char) (point : Int) : List Char :=
  if point ≤ 0 then '0' :: '.' :: List.replicate (-point).toNat '0' ++ digits
  else
    let n := point.toNat
    let filled := digits ++ List.replicate (n - digits.length) '0'
    let behind := filled.drop n
    filled.take n ++ '.' :: (if behind.isEmpty then ['0'] else behind)

/-- Decimal digits with the point behind the first one and the exponent of ten behind the letter
`e`, in two digits or more. -/
def scientific (digits : List Char) (exponent : Int) : List Char :=
  let mantissa := match digits with
    | d :: (c :: cs) => d :: '.' :: c :: cs
    | ds => ds
  mantissa ++ 'e' :: (if exponent < 0 then '-' else '+') :: Text.padded 2 exponent.natAbs

def positiveChars (m : Nat) (e : Int) : List Char :=
  let (d, k) := shortest m e
  let digits := Text.decimal d
  -- Zeros at the end belong to the exponent.
  let kept := (digits.reverse.dropWhile (· == '0')).reverse
  let point := (digits.length : Int) + k
  let exponent := point - 1
  if scientificBelow ≤ exponent && exponent < scientificFrom then positional kept point
  else scientific kept exponent

/-- A number as text: the fewest digits that read back, with a point or an exponent. -/
def toText : Binary64 → String
  | nan => "nan"
  | infinite negative => if negative then "-inf" else "inf"
  | finite negative m e =>
    let cs := if m = 0 then ['0', '.', '0'] else positiveChars m e
    String.ofList (if negative then '-' :: cs else cs)

def ten : Binary64 := ofRatio false 10 1

end Binary64

end VideoWall
