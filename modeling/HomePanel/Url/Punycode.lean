/-!
# Punycode

The bootstring encoding of RFC 3492 with the parameters of internationalized domain names
(base 36, `tmin = 1`, `tmax = 26`, skew 38, damping 700, initial bias 72, initial code
point 128). A label's ASCII characters are copied, followed by a `-` if there are any; the
other code points are inserted in increasing order, each insertion written as a
variable-length number of digits `a`–`z`, `0`–`9`.

Decoding reads the text before the last `-` as the copied characters and the rest as
digits; a `-` at the very start delimits nothing, and the whole text is then read as
digits. Every intermediate value is held to 32 bits: a number that does not fit, a digit
outside the alphabet, a number cut off by the end of the text, or a code point that is not
a Unicode scalar value makes the text undecodable.

Both directions refuse long input: a label of more than 1000 code points is not encoded,
and a text of more than 2000 characters is not decoded.

Each loop below divides a number, walks a list or consumes the text, so each ends on its
own.
-/

namespace HomePanel

namespace Url

/-- The bootstring threshold of digit position `k`. -/
def threshold (k bias : Nat) : Nat :=
  if k ≤ bias then 1 else if bias + 26 ≤ k then 26 else k - bias

theorem threshold_pos (k bias : Nat) : 1 ≤ threshold k bias := by
  unfold threshold
  split
  · omega
  · split <;> omega

theorem threshold_le (k bias : Nat) : threshold k bias ≤ 26 := by
  unfold threshold
  split
  · omega
  · split <;> omega

/-- A bootstring digit: `a`–`z` for 0–25, `0`–`9` for 26–35. -/
def bootDigit (d : Nat) : Char :=
  if d < 26 then Char.ofNat ('a'.toNat + d) else Char.ofNat ('0'.toNat + d - 26)

/-- The value of a bootstring digit, either case of a letter accepted. -/
def bootDigitValue (c : Char) : Option Nat :=
  if 'a' ≤ c ∧ c ≤ 'z' then some (c.toNat - 'a'.toNat)
  else if 'A' ≤ c ∧ c ≤ 'Z' then some (c.toNat - 'A'.toNat)
  else if '0' ≤ c ∧ c ≤ '9' then some (c.toNat - '0'.toNat + 26)
  else none

/-- Scales `delta` down by 35 until it is at most 455, counting steps of 36. -/
def adaptSteps (delta k : Nat) : Nat × Nat :=
  if 455 < delta then adaptSteps (delta / 35) (k + 36) else (delta, k)
termination_by delta
decreasing_by exact Nat.div_lt_self (by omega) (by omega)

/-- The bias after a code point: damping 700 on the first, 2 after; skew 38. -/
def adaptBias (delta points : Nat) (first : Bool) : Nat :=
  let d := if first then delta / 700 else delta / 2
  let (d, k) := adaptSteps (d + d / points) 0
  k + 36 * d / (d + 38)

/-- The most code points a label may have to be encoded. -/
def encodeLimit : Nat := 1000

/-- The most characters a text may have to be decoded. -/
def decodeLimit : Nat := 2000

/-! ## Encoding -/

/-- A difference as variable-length digits, least significant first. -/
def bootDigits (bias k q : Nat) : List Char :=
  let t := threshold k bias
  if q < t then [bootDigit q]
  else bootDigit (t + (q - t) % (36 - t)) :: bootDigits bias (k + 36) ((q - t) / (36 - t))
termination_by q
decreasing_by
  have h1 := threshold_pos k bias
  have h2 := threshold_le k bias
  calc (q - threshold k bias) / (36 - threshold k bias)
      ≤ q - threshold k bias := Nat.div_le_self _ _
    _ < q := by omega

/-- Bootstring state: output, delta, bias, and the count of handled code points. -/
structure BootState where
  out : List Char
  delta : Nat
  bias : Nat
  handled : Nat

/-- Moves the state past one input character while handling code point `m`. -/
def bootScan (basic m : Nat) (st : BootState) (c : Char) : BootState :=
  if c.toNat < m then { st with delta := st.delta + 1 }
  else if c.toNat = m then
    { out := st.out ++ bootDigits st.bias 36 st.delta, delta := 0,
      bias := adaptBias st.delta (st.handled + 1) (st.handled = basic),
      handled := st.handled + 1 }
  else st

/-- Handles the non-ASCII code points in increasing order. -/
def bootLoop (input : List Char) (basic : Nat) : List Nat → Nat → BootState → BootState
  | [], _, st => st
  | m :: rest, n, st =>
    let st := { st with delta := st.delta + (m - n) * (st.handled + 1) }
    let st := input.foldl (bootScan basic m) st
    bootLoop input basic rest (m + 1) { st with delta := st.delta + 1 }

/-- The bootstring encoding of a label: its ASCII characters, a `-` if there are any,
then the non-ASCII code points as digits. -/
def bootstring (label : List Char) : List Char :=
  let basic := label.filter (·.toNat < 0x80)
  let points := ((label.filter (0x80 ≤ ·.toNat)).map Char.toNat).mergeSort.eraseDups
  let st := bootLoop label basic.length points 128 ⟨[], 0, 72, basic.length⟩
  basic ++ (if basic.isEmpty then [] else ['-']) ++ st.out

/-- The bootstring encoding of a label, or `none` when the label is too long. -/
def encodeLabel? (label : List Char) : Option (List Char) :=
  if encodeLimit < label.length then none else some (bootstring label)

/-! ## Decoding -/

/-- One more than the largest 32-bit number. -/
def wordLimit : Nat := 4294967296

/-- Reads one variable-length number and adds it, times the running weight, to `i`.
Returns the new `i` and the text after the number's last digit. -/
def readDelta (bias : Nat) : List Char → Nat → Nat → Nat → Option (Nat × List Char)
  | [], _, _, _ => none
  | c :: rest, k, weight, i =>
    match bootDigitValue c with
    | none => none
    | some d =>
      if wordLimit ≤ d * weight ∨ wordLimit ≤ i + d * weight then none
      else if d < threshold k bias then some (i + d * weight, rest)
      else if wordLimit ≤ weight * (36 - threshold k bias) then none
      else readDelta bias rest (k + 36) (weight * (36 - threshold k bias)) (i + d * weight)

/-- Reading a number consumes at least one character. -/
theorem readDelta_length : ∀ (bias : Nat) (l : List Char) (k w i : Nat) (r : Nat × List Char),
    readDelta bias l k w i = some r → r.2.length < l.length
  | _, [], _, _, _, _, h => by simp [readDelta] at h
  | bias, c :: rest, k, w, i, r, h => by
    simp only [readDelta] at h
    split at h
    · simp at h
    · split at h
      · simp at h
      · split at h
        · simp only [Option.some.injEq] at h
          subst h
          simp
        · split at h
          · simp at h
          · have := readDelta_length bias rest (k + 36) _ _ r h
            simp only [List.length_cons]
            omega

/-- Whether a number is a Unicode scalar value. -/
def isScalar (n : Nat) : Bool := n < 0xD800 || (0xDFFF < n && n < 0x110000)

/-- Inserts the decoded code points one by one into `out`. -/
def decodeLoop (bias n i : Nat) (out : List Char) : List Char → Option (List Char)
  | [] => some out
  | c :: rest =>
    match hd : readDelta bias (c :: rest) 36 1 i with
    | none => none
    | some (i', rem) =>
      let points := out.length + 1
      let n' := n + i' / points
      let pos := i' % points
      if wordLimit ≤ n' ∨ !isScalar n' then none
      else
        decodeLoop (adaptBias (i' - i) points (i == 0)) n' (pos + 1)
          (out.insertIdx pos (Char.ofNat n')) rem
termination_by l => l.length
decreasing_by
  have := readDelta_length bias (c :: rest) 36 1 i (i', rem) hd
  simpa using this

/-- The copied characters and the digits of an encoded label: split at the last `-`, the
whole text being digits when that `-` is the first character or there is none. -/
def splitAtDelimiter (input : List Char) : List Char × List Char :=
  match input.reverse.span (· != '-') with
  | (revDigits, []) => ([], revDigits.reverse)
  | (revDigits, _ :: revBasic) =>
    if revBasic.isEmpty then ([], input) else (revBasic.reverse, revDigits.reverse)

/-- Decodes a bootstring text (without its `xn--`), or `none` when it is malformed or too
long. -/
def unbootstring (input : List Char) : Option (List Char) :=
  if decodeLimit < input.length then none
  else
    let (basic, digits) := splitAtDelimiter input
    decodeLoop 72 128 0 basic digits

end Url

end HomePanel
