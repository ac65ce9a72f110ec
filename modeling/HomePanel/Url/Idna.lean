import HomePanel.Unicode.Category
import HomePanel.Unicode.Bidi
import HomePanel.Unicode.Joining
import HomePanel.Unicode.Normalization
import HomePanel.Unicode.IdnaMapping
import HomePanel.Url.Punycode

/-!
# Domain names to ASCII

A domain is turned into its ASCII form by the processing of UTS 46, nontransitional, with
the checks a URL host gets: joiners and the bidirectional rule are checked, hyphens and
lengths are not.

1. Every code point is mapped by the IDNA table: valid and deviation code points stay,
   ignored ones are dropped, mapped ones are replaced, and a disallowed one fails the
   domain. The result is put in NFC. An ASCII character on the host's deny list fails it.
2. The domain is split into labels at `.`. A label starting with `xn--` must be ASCII and
   decode as bootstring to a label that is not empty, not all ASCII, does not itself start
   with `xn--`, is in NFC and is made of valid or deviation code points only.
3. Every label, decoded, must not start with a combining mark and must place its joiners
   by the rules of RFC 5892: a zero width joiner only after a virama, a zero width
   non-joiner after a virama or between a left-joining and a right-joining character with
   only transparent ones around it. If any label holds a right-to-left character (classes
   `R`, `AL`, `AN`), every label must satisfy the bidirectional rule of RFC 5893.
4. A decoded label that is not ASCII is written as `xn--` and its bootstring encoding,
   which fails for a label of more than 1000 code points; an `xn--` label whose encoded
   part has more than 2000 characters fails to decode.
-/

namespace HomePanel

namespace Url

open Unicode

/-! ## Mapping -/

/-- The mapped form of one code point, or `none` when it is disallowed. -/
def mapCodePoint (n : Nat) : Option (List Nat) :=
  match idnaStatus n with
  | .valid => some [n]
  | .deviation => some [n]
  | .mapped replacement => some replacement
  | .ignored => some []
  | .disallowed => none

/-- Whether a code point may stand in a label as it is. -/
def isValidInLabel (n : Nat) : Bool :=
  match idnaStatus n with
  | .valid => true
  | .deviation => true
  | _ => false

/-- The code points of a text, as characters. -/
def charsOf (ns : List Nat) : List Char := ns.map Char.ofNat

/-! ## Joiners -/

def zeroWidthNonJoiner : Nat := 0x200C
def zeroWidthJoiner : Nat := 0x200D

/-- The combining class of a virama. -/
def viramaClass : Nat := 9

/-- Whether the first character that is not transparent joins to the following side,
reading `before` from the joiner outwards. -/
def joinsFromBefore (before : List Nat) : Bool :=
  match before.dropWhile (fun n => joiningType (Char.ofNat n) == .transparent) with
  | n :: _ => joiningType (Char.ofNat n) == .left || joiningType (Char.ofNat n) == .dual
  | [] => false

/-- Whether the first character that is not transparent joins to the preceding side. -/
def joinsFromAfter (after : List Nat) : Bool :=
  match after.dropWhile (fun n => joiningType (Char.ofNat n) == .transparent) with
  | n :: _ => joiningType (Char.ofNat n) == .right || joiningType (Char.ofNat n) == .dual
  | [] => false

/-- Whether the code point just before is a virama. -/
def afterVirama (before : List Nat) : Bool :=
  match before with
  | n :: _ => combiningClass n == viramaClass
  | [] => false

/-- Whether code point `n`, between `before` (reversed) and `after`, is placed as the
joiner rules ask; every other code point is. -/
def joinerAllowed (before : List Nat) (n : Nat) (after : List Nat) : Bool :=
  if n = zeroWidthJoiner then afterVirama before
  else if n = zeroWidthNonJoiner then
    afterVirama before || (joinsFromBefore before && joinsFromAfter after)
  else true

/-- Whether every joiner of a label is allowed; `before` is the part already read,
reversed. -/
def joinersAllowed (before : List Nat) : List Nat → Bool
  | [] => true
  | n :: after => joinerAllowed before n after && joinersAllowed (n :: before) after

/-! ## The bidirectional rule -/

/-- The class of a code point. -/
def classOf (n : Nat) : BidiClass := bidiClass (Char.ofNat n)

/-- Whether a code point is written right to left. -/
def isRightToLeft (n : Nat) : Bool :=
  let c := classOf n
  c == .R || c == .AL || c == .AN

/-- The class of the last code point that is not a non-spacing mark. -/
def lastSpacingClass (label : List Nat) : Option BidiClass :=
  (label.reverse.dropWhile (classOf · == .NSM)).head?.map classOf

/-- The classes a left-to-right label may hold after its first code point. -/
def leftToRightAllows (c : BidiClass) : Bool :=
  [BidiClass.L, .EN, .ES, .CS, .ET, .ON, .BN, .NSM].contains c

/-- The classes a right-to-left label may hold after its first code point. -/
def rightToLeftAllows (c : BidiClass) : Bool :=
  [BidiClass.R, .AL, .AN, .EN, .ES, .CS, .ET, .ON, .BN, .NSM].contains c

/-- The bidirectional rule for one label of a domain that holds right-to-left text. -/
def bidiRuleHolds (label : List Nat) : Bool :=
  match label with
  | [] => true
  | first :: rest =>
    match classOf first with
    | .L =>
      rest.all (leftToRightAllows ∘ classOf) &&
        (match lastSpacingClass label with
          | some c => c == .L || c == .EN
          | none => true)
    | .R | .AL =>
      let classes := rest.map classOf
      classes.all rightToLeftAllows &&
        (match lastSpacingClass label with
          | some c => c == .R || c == .AL || c == .EN || c == .AN
          | none => false) &&
        !(classes.contains .EN && classes.contains .AN)
    | _ => false

/-! ## Labels -/

/-- A label as it is checked: the code points of a plain label, the decoded ones of an
`xn--` label, or `none` when the `xn--` label is malformed. -/
def decodedLabel (label : List Nat) : Option (List Nat) :=
  match label with
  | 0x78 :: 0x6E :: 0x2D :: 0x2D :: code =>
    if !code.all (· < 0x80) then none
    else do
      let decoded ← unbootstring (charsOf code)
      let ns := decoded.map Char.toNat
      if ns.isEmpty ∨ ns.all (· < 0x80) then none
      if ns.take 4 = [0x78, 0x6E, 0x2D, 0x2D] then none
      if nfc ns ≠ ns then none
      if !ns.all isValidInLabel then none
      return ns
  | _ => some label

/-- The checks every decoded label must pass; `bidi` says whether the domain holds
right-to-left text. -/
def labelValid (bidi : Bool) (label : List Nat) : Bool :=
  (match label.head? with
    | some n => !isMark (Char.ofNat n)
    | none => true) &&
  joinersAllowed [] label &&
  (!bidi || bidiRuleHolds label)

/-- The ASCII form of a decoded label that passed its checks, or `none` when it is too
long to encode. -/
def asciiLabel (label : List Nat) : Option (List Char) :=
  if label.all (· < 0x80) then some (charsOf label)
  else (encodeLabel? (charsOf label)).map ("xn--".toList ++ ·)

/-- The ASCII form of a domain, or `none` when it fails; `denied` names the ASCII
characters the domain may not hold. -/
def domainToAscii (denied : Char → Bool) (input : List Char) : Option String := do
  let mapped ← (input.map Char.toNat).flatMapM mapCodePoint
  let normalized := nfc mapped
  if normalized.any (fun n => n < 0x80 && denied (Char.ofNat n)) then none
  let labels := normalized.splitOn 0x2E
  let decoded ← labels.mapM decodedLabel
  let bidi := decoded.any (·.any isRightToLeft)
  if !decoded.all (labelValid bidi) then none
  let ascii ← decoded.mapM asciiLabel
  return ".".intercalate (ascii.map String.ofList)

end Url

end HomePanel
