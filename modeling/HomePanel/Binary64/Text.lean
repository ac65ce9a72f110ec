import HomePanel.Binary64.Shortest

/-!
# Writing and reading binary64 numbers

A number is written from its shortest decimal (`Binary64.shortest`) under a
`NumberLayout`: which leading-digit exponents are written positionally, whether an integral
value keeps `.0`, which of two equally near shortest decimals is taken, and the words for
NaN and the infinities. Three layouts are used: `plain`, for numbers that become parameter
text, `json`, for numbers inside JSON text, and `diagnostic`, for numbers named in error
messages.

Reading (`Binary64.ofString?`) takes an optional sign and then either a word (`inf`,
`infinity`, `nan`, in any case) or a decimal with optional fraction and exponent, and
rounds to the nearest number.
-/

namespace HomePanel

/-- How the shortest decimal of a number is laid out as text. -/
structure NumberLayout where
  /-- Leading-digit exponents written positionally, as `[lo, hi)`; `none` for all. -/
  positional : Option (Int × Int)
  /-- Whether an integral value is written with `.0`. -/
  pointZero : Bool
  /-- Which of two equally near shortest decimals is written. -/
  tie : DigitTie
  nanText : String
  infinityText : String
  negInfinityText : String

namespace NumberLayout

/-- Parameter text: always positional, integral values bare, a tie to the larger decimal,
infinities spelled out. -/
def plain : NumberLayout :=
  ⟨none, false, .up, "NaN", "Infinity", "-Infinity"⟩

/-- JSON text: positional for leading exponents `-5 … 15`, `.0` kept, a tie to the even
decimal, and `null` for the values JSON cannot hold. -/
def json : NumberLayout :=
  ⟨some (-5, 16), true, .even, "null", "null", "null"⟩

/-- Diagnostic text: as JSON text, with the words `NaN`, `inf` and `-inf`. -/
def diagnostic : NumberLayout :=
  ⟨some (-5, 16), true, .even, "NaN", "inf", "-inf"⟩

/-- `n` zeros. -/
def zeros (n : Nat) : String := String.ofList (List.replicate n '0')

/-- Whether a leading digit of decimal exponent `lead` is written positionally. -/
def isPositional (layout : NumberLayout) (lead : Int) : Bool :=
  match layout.positional with
  | none => true
  | some (lo, hi) => decide (lo ≤ lead) && decide (lead < hi)

/-- The text of a decimal with non-zero digits: positional, or one leading digit, the other
digits after a point, and `e` with the exponent's sign and its digits. -/
def decimalText (layout : NumberLayout) (d : Decimal) : String :=
  let s := toString d.digits
  let len : Int := s.length
  let point := len + d.exponent
  let lead := point - 1
  if layout.isPositional lead then
    if 0 ≤ d.exponent then
      s ++ zeros d.exponent.toNat ++ (if layout.pointZero then ".0" else "")
    else if 0 < point then
      String.ofList (s.toList.take point.toNat) ++ "." ++ String.ofList (s.toList.drop point.toNat)
    else "0." ++ zeros (-point).toNat ++ s
  else
    let mantissa :=
      if s.length = 1 then s
      else String.ofList (s.toList.take 1) ++ "." ++ String.ofList (s.toList.drop 1)
    mantissa ++ "e" ++ (if 0 ≤ lead then "+" else "-") ++ toString lead.natAbs

/-- The text of a number under the layout. -/
def render (layout : NumberLayout) (x : Binary64) : String :=
  if x.isNaN then layout.nanText
  else if x.isInfinite then (if x.sign then layout.negInfinityText else layout.infinityText)
  else
    let signText := if x.sign then "-" else ""
    if x.isZero then signText ++ (if layout.pointZero then "0.0" else "0")
    else signText ++ layout.decimalText (x.shortest layout.tie)

example : json.render (Binary64.ofNat 10000000000000000) = "1e+16" := by decide +kernel
example : diagnostic.render (Binary64.ofNat 10000000000000000) = "1e+16" := by decide +kernel
example : plain.render (Binary64.ofNat 10000000000000000) = "10000000000000000" := by
  decide +kernel

end NumberLayout

namespace Binary64

/-- The value of a run of decimal digits. -/
def digitsValue (cs : List Char) : Nat :=
  cs.foldl (fun acc c => acc * 10 + (c.toNat - '0'.toNat)) 0

/-- Reads an unsigned decimal `digits [. digits] [e [sign] digits]` with at least one
mantissa digit, as the nearest number with the given sign. -/
def readDecimal (neg : Bool) (cs : List Char) : Option Binary64 :=
  let intPart := cs.takeWhile Char.isDigit
  let rest := cs.dropWhile Char.isDigit
  let (fracPart, rest) :=
    match rest with
    | '.' :: more => (more.takeWhile Char.isDigit, more.dropWhile Char.isDigit)
    | _ => ([], rest)
  if intPart.isEmpty && fracPart.isEmpty then none
  else
    let expValue : Option Int :=
      match rest with
      | [] => some 0
      | c :: more =>
        if c = 'e' ∨ c = 'E' then
          let (expNeg, digits) :=
            match more with
            | '+' :: ds => (false, ds)
            | '-' :: ds => (true, ds)
            | ds => (false, ds)
          if digits.isEmpty || !digits.all Char.isDigit then none
          else
            let v : Int := digitsValue digits
            some (if expNeg then -v else v)
        else none
    expValue.map fun e10 =>
      ofDecimal neg (digitsValue (intPart ++ fracPart)) (e10 - fracPart.length)

/-- Reads a number: an optional sign, then `inf`, `infinity` or `nan` in any case, or a
decimal. Anything else is refused. -/
def ofString? (s : String) : Option Binary64 :=
  let (neg, body) :=
    match s.toList with
    | '-' :: cs => (true, cs)
    | '+' :: cs => (false, cs)
    | cs => (false, cs)
  let word := String.ofList (body.map Char.toLower)
  if word = "inf" ∨ word = "infinity" then some (infinity neg)
  else if word = "nan" then some nan
  else readDecimal neg body

end Binary64

end HomePanel
