/-!
# Binary64 numbers

A binary64 number is kept as its 64-bit interchange word. Every operation the library
needs is computed exactly on naturals: the operands are decoded to `m · 2 ^ e`, the exact
result is formed as a quotient of naturals, and `roundQuotient` takes that quotient to the
nearest representable number, a tie going to the even significand. No operation goes
through the machine's floating point, so each result is a plain function of the words
and can be evaluated in proofs.
-/

namespace HomePanel

/-- A binary64 number, given by its interchange word. -/
structure Binary64 where
  bits : UInt64
  deriving DecidableEq, Repr, Inhabited

namespace Binary64

/-- The 52 fraction bits of the word. -/
def fraction (x : Binary64) : Nat := x.bits.toNat % Nat.pow 2 52

/-- The 11 biased exponent bits of the word. -/
def biasedExponent (x : Binary64) : Nat := x.bits.toNat / Nat.pow 2 52 % Nat.pow 2 11

/-- The sign bit: `true` for negative numbers, `-0` included. -/
def sign (x : Binary64) : Bool := decide (Nat.pow 2 63 ≤ x.bits.toNat)

def isNaN (x : Binary64) : Bool := x.biasedExponent == 2047 && x.fraction != 0

def isInfinite (x : Binary64) : Bool := x.biasedExponent == 2047 && x.fraction == 0

def isFinite (x : Binary64) : Bool := x.biasedExponent != 2047

def isZero (x : Binary64) : Bool := x.biasedExponent == 0 && x.fraction == 0

/-- The significand `m` of a finite number of magnitude `m · 2 ^ x.exponent`. -/
def significand (x : Binary64) : Nat :=
  if x.biasedExponent = 0 then x.fraction else Nat.pow 2 52 + x.fraction

/-- The binary exponent that goes with `significand`. -/
def exponent (x : Binary64) : Int :=
  if x.biasedExponent = 0 then -1074 else (x.biasedExponent : Int) - 1075

/-- The number with the given sign, biased exponent and fraction fields. -/
def ofFields (neg : Bool) (biased fraction : Nat) : Binary64 :=
  ⟨((if neg then Nat.pow 2 63 else 0) + biased * Nat.pow 2 52 + fraction).toUInt64⟩

/-- Zero with the given sign. -/
def signedZero (neg : Bool) : Binary64 := ofFields neg 0 0

/-- Infinity with the given sign. -/
def infinity (neg : Bool) : Binary64 := ofFields neg 2047 0

/-- The quiet NaN with an empty payload. -/
def nan : Binary64 := ofFields false 2047 (Nat.pow 2 51)

def zero : Binary64 := signedZero false

/-- The same number with the other sign. -/
def neg (x : Binary64) : Binary64 := ⟨x.bits ^^^ 0x8000000000000000⟩

/-- The magnitude: the same number with the sign bit cleared. -/
def abs (x : Binary64) : Binary64 := ofFields false x.biasedExponent x.fraction

/-- `den · 2 ^ k ≤ num`, decided on naturals. -/
def pow2MulLE (den num : Nat) (k : Int) : Bool :=
  if 0 ≤ k then decide (den * Nat.pow 2 k.toNat ≤ num) else decide (den ≤ num * Nat.pow 2 (-k).toNat)

/-- The exponent `k` with `2 ^ k ≤ num / den < 2 ^ (k + 1)`, for positive `num` and `den`. -/
def floorLog2 (num den : Nat) : Int :=
  let k : Int := (num.log2 : Int) - den.log2
  if pow2MulLE den num k then k else k - 1

/-- Packs a significand and exponent whose magnitude `m · 2 ^ e` has already been rounded:
`m < 2 ^ 53` (or exactly `2 ^ 53` after a carry), and `m < 2 ^ 52` only at `e = -1074`.
A magnitude past the largest finite number is infinite. -/
def pack (neg : Bool) (m : Nat) (e : Int) : Binary64 :=
  let (m, e) := if m = Nat.pow 2 53 then (Nat.pow 2 52, e + 1) else (m, e)
  if m < Nat.pow 2 52 then ofFields neg 0 m
  else if 2047 ≤ e + 1075 then infinity neg
  else ofFields neg (e + 1075).toNat (m - Nat.pow 2 52)

/-- The number nearest to `num / den · 2 ^ shift` with the given sign, a tie going to the
even significand; magnitudes past the largest finite number become infinite. -/
def roundQuotient (neg : Bool) (num den : Nat) (shift : Int) : Binary64 :=
  if num = 0 ∨ den = 0 then signedZero neg
  else
    let k := floorLog2 num den + shift
    let e := max (k - 52) (-1074)
    let d := shift - e
    let n := if 0 ≤ d then num * Nat.pow 2 d.toNat else num
    let m := if 0 ≤ d then den else den * Nat.pow 2 (-d).toNat
    let q := n / m
    let r := n % m
    let up := decide (m < 2 * r) || (decide (2 * r = m) && q % 2 == 1)
    pack neg (if up then q + 1 else q) e

/-- The nearest number to a natural. -/
def ofNat (n : Nat) : Binary64 := roundQuotient false n 1 0

/-- The nearest number to an integer; `0` gives `+0`. -/
def ofInt (i : Int) : Binary64 := roundQuotient (decide (i < 0)) i.natAbs 1 0

/-- Rounded product. -/
def mul (x y : Binary64) : Binary64 :=
  let neg := x.sign != y.sign
  if x.isNaN || y.isNaN then nan
  else if x.isInfinite || y.isInfinite then
    if x.isZero || y.isZero then nan else infinity neg
  else roundQuotient neg (x.significand * y.significand) 1 (x.exponent + y.exponent)

/-- Rounded quotient. -/
def div (x y : Binary64) : Binary64 :=
  let neg := x.sign != y.sign
  if x.isNaN || y.isNaN then nan
  else if x.isInfinite then (if y.isInfinite then nan else infinity neg)
  else if y.isInfinite then signedZero neg
  else if y.isZero then (if x.isZero then nan else infinity neg)
  else roundQuotient neg x.significand y.significand (x.exponent - y.exponent)

/-- The exact value of a finite number as an integer times `2 ^ e`, for any `e` at most
its exponent. -/
def scaledInt (x : Binary64) (e : Int) : Int :=
  let m : Int := x.significand * Nat.pow 2 (x.exponent - e).toNat
  if x.sign then -m else m

/-- Rounded sum. An exact zero sum is `+0`, unless both terms are `-0`. -/
def add (x y : Binary64) : Binary64 :=
  if x.isNaN || y.isNaN then nan
  else if x.isInfinite then (if y.isInfinite && x.sign != y.sign then nan else x)
  else if y.isInfinite then y
  else
    let e := min x.exponent y.exponent
    let total := scaledInt x e + scaledInt y e
    if total = 0 then signedZero (x.sign && y.sign)
    else roundQuotient (decide (total < 0)) total.natAbs 1 e

/-- Rounded difference. -/
def sub (x y : Binary64) : Binary64 := add x y.neg

/-- Whether `x < y` for finite numbers; zeros of either sign are equal. -/
def lt (x y : Binary64) : Bool :=
  let e := min x.exponent y.exponent
  decide (scaledInt x e < scaledInt y e)

/-- The number of decimal digits of a natural; `0` has none. -/
def decimalLength (n : Nat) : Nat :=
  if n = 0 then 0 else (Nat.toDigits 10 n).length

/-- The number nearest to `m · 10 ^ e10` with the given sign. Magnitudes far outside the
finite range are settled before any power is formed. -/
def ofDecimal (neg : Bool) (m : Nat) (e10 : Int) : Binary64 :=
  if m = 0 then signedZero neg
  else if 310 < (decimalLength m : Int) + e10 then infinity neg
  else if (decimalLength m : Int) + e10 < -330 then signedZero neg
  else if 0 ≤ e10 then roundQuotient neg (m * Nat.pow 10 e10.toNat) 1 0
  else roundQuotient neg m (Nat.pow 10 (-e10).toNat) 0

end Binary64

end HomePanel
