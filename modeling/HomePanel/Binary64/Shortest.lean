import HomePanel.Binary64.Basic

/-!
# Shortest decimal of a binary64 number

The decimal written for a finite non-zero number has the fewest significant digits among
the decimals that read back as that number, and of two such decimals with that many digits
it is the nearer one; an exact tie goes as a `DigitTie` says, to the larger or to the even
one. The search tries one digit, two
digits, and so on: on the grid of `n`-digit decimals only the two neighbours of the value
can read back, so each step tests two candidates with `Binary64.ofDecimal`, which is exact.
Seventeen digits always suffice for binary64.
-/

namespace HomePanel

/-- The decimal `digits · 10 ^ exponent`. -/
structure Decimal where
  digits : Nat
  exponent : Int
  deriving DecidableEq, Repr, Inhabited

namespace Decimal

/-- The same value with the trailing zeros of `digits` moved into the exponent. -/
def normalize (d : Decimal) : Decimal :=
  if h : d.digits ≠ 0 ∧ d.digits % 10 = 0 then
    normalize ⟨d.digits / 10, d.exponent + 1⟩
  else d
termination_by d.digits
decreasing_by exact Nat.div_lt_self (Nat.pos_of_ne_zero h.1) (by decide)

end Decimal

/-- Which of two equally near decimals of the shortest length is written. -/
inductive DigitTie where
  /-- The larger one. -/
  | up
  /-- The one whose last digit is even. -/
  | even
  deriving DecidableEq, Repr

namespace Binary64

/-- `den · 10 ^ k ≤ num`, decided on naturals. -/
def pow10MulLE (den num : Nat) (k : Int) : Bool :=
  if 0 ≤ k then decide (den * Nat.pow 10 k.toNat ≤ num) else decide (den ≤ num * Nat.pow 10 (-k).toNat)

/-- The exponent `k` with `10 ^ k ≤ num / den < 10 ^ (k + 1)`, for positive `num` and `den`. -/
def floorLog10 (num den : Nat) : Int :=
  let k : Int := (decimalLength num : Int) - decimalLength den
  if pow10MulLE den num k then k else k - 1

/-- The multiple of `10 ^ s` next to `num / den` that reads back as `target`, the nearer
one when both do (a tie going as `tie` says), or `none` when neither does. -/
def gridNeighbour (tie : DigitTie) (target : Binary64) (num den : Nat) (s : Int) : Option Nat :=
  let n := if 0 ≤ s then num else num * Nat.pow 10 (-s).toNat
  let d := if 0 ≤ s then den * Nat.pow 10 s.toNat else den
  let lo := n / d
  let r := n % d
  let loReads := ofDecimal false lo s == target
  let hiReads := r != 0 && ofDecimal false (lo + 1) s == target
  match loReads, hiReads with
  | true, true =>
    if 2 * r < d then some lo
    else if d < 2 * r then some (lo + 1)
    else match tie with
      | .up => some (lo + 1)
      | .even => if lo % 2 = 0 then some lo else some (lo + 1)
  | true, false => some lo
  | false, true => some (lo + 1)
  | false, false => none

/-- Tries `n`, `n + 1`, … significant digits for `num / den`, whose leading digit has
decimal exponent `top`. -/
def searchDigits (tie : DigitTie) (target : Binary64) (num den : Nat) (top : Int) :
    Nat → Nat → Decimal
  | 0, _ => ⟨num / den, 0⟩
  | fuel + 1, n =>
    let s := top + 1 - n
    match gridNeighbour tie target num den s with
    | some c => ⟨c, s⟩
    | none => searchDigits tie target num den top fuel (n + 1)

/-- The shortest decimal that reads back as the magnitude of a finite non-zero number,
with no trailing zeros in its digits; of two equally near ones, the one `tie` picks. -/
def shortest (tie : DigitTie) (x : Binary64) : Decimal :=
  let m := x.significand
  let e := x.exponent
  let num := if 0 ≤ e then m * Nat.pow 2 e.toNat else m
  let den := if 0 ≤ e then 1 else Nat.pow 2 (-e).toNat
  (searchDigits tie x.abs num den (floorLog10 num den) 17 1).normalize

end Binary64

end HomePanel
