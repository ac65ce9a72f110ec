import HomePanel.Url.Encoding
import HomePanel.Url.Idna

/-!
# Hosts of HTTP URLs

The host of an `http` or `https` URL is read in one of three ways.

* In square brackets it is an IPv6 address: up to eight groups of one to four hex digits
  separated by `:`, at most one `::` standing for one or more zero groups, and optionally a
  dotted IPv4 address (four decimal numbers below 256, no leading zeros) as the last two
  groups. It is written back in lowercase hex with the longest run of two or more zero
  groups (the first of equal runs) shortened to `::`.
* Otherwise its `%XX` escapes are decoded, the bytes must be UTF-8, and the text is taken
  to its ASCII form by domain name processing (`domainToAscii`), which also lowers ASCII
  letters; the result may not hold a control character, a space or one of
  `# % / : < > ? @ [ \ ] ^ |`, and may not be empty.
* If the last label of that form (a trailing empty label aside) is a number, the whole
  host must be an IPv4 address of one to four dot-separated numbers, each decimal, octal
  after a leading `0`, or hex after `0x`; all but the last are below 256 and the last
  fills the remaining bytes. It is written back as four decimal bytes.
* Anything else is a domain, written in its ASCII form.

Each loop below walks a list or divides a number, so each ends on its own.
-/

namespace HomePanel

namespace Url

/-! ## Numbers -/

def isHexDigit (c : Char) : Bool :=
  c.isDigit || ('a' ≤ c && c ≤ 'f') || ('A' ≤ c && c ≤ 'F')

def hexDigitValue (c : Char) : Nat :=
  if c.isDigit then c.toNat - '0'.toNat
  else if 'a' ≤ c && c ≤ 'f' then c.toNat - 'a'.toNat + 10
  else c.toNat - 'A'.toNat + 10

/-- The value of a digit string in a radix. -/
def radixValue (radix : Nat) (cs : List Char) : Nat :=
  cs.foldl (fun acc c => acc * radix + hexDigitValue c) 0

/-- One part of an IPv4 address: decimal, octal after a leading `0`, hex after `0x`. -/
def ipv4Part? (cs : List Char) : Option Nat :=
  match cs with
  | [] => none
  | '0' :: x :: rest =>
    if x = 'x' ∨ x = 'X' then
      if rest.all isHexDigit then some (radixValue 16 rest) else none
    else
      let digits := x :: rest
      if digits.all (fun c => '0' ≤ c && c ≤ '7') then some (radixValue 8 digits) else none
  | _ => if cs.all Char.isDigit then some (radixValue 10 cs) else none

/-- The labels of a dotted text, without a trailing empty one. -/
def dottedParts (cs : List Char) : List (List Char) :=
  let parts := cs.splitOn '.'
  if parts.getLast? = some [] ∧ 1 < parts.length then parts.dropLast else parts

/-- Whether the last label of a host is a number, so that the host must be IPv4. -/
def endsInNumber (cs : List Char) : Bool :=
  match (dottedParts cs).getLast? with
  | some last => (!last.isEmpty && last.all Char.isDigit) || (ipv4Part? last).isSome
  | none => false

/-- An IPv4 address as a 32-bit number. -/
def ipv4? (cs : List Char) : Option Nat := do
  let parts := dottedParts cs
  if 4 < parts.length then none
  let numbers ← parts.mapM ipv4Part?
  let last ← numbers.getLast?
  let front := numbers.dropLast
  if Nat.pow 256 (4 - front.length) ≤ last then none
  if front.any (255 < ·) then none
  return (front.zipIdx.foldl (fun acc p => acc + p.1 * Nat.pow 256 (3 - p.2)) 0) + last

/-- Four decimal bytes. -/
def ipv4Text (address : Nat) : String :=
  ".".intercalate ([3, 2, 1, 0].map fun k => toString (address / Nat.pow 256 k % 256))

/-! ## IPv6 -/

/-- One group of one to four hex digits. -/
def ipv6Group? (cs : List Char) : Option Nat :=
  if 0 < cs.length ∧ cs.length ≤ 4 ∧ cs.all isHexDigit then some (radixValue 16 cs) else none

/-- A decimal byte of an embedded IPv4 address: no leading zero, below 256. -/
def ipv6Byte? (cs : List Char) : Option Nat :=
  match cs with
  | [] => none
  | ['0'] => some 0
  | '0' :: _ => none
  | _ => if cs.all Char.isDigit ∧ radixValue 10 cs ≤ 255 then some (radixValue 10 cs) else none

/-- A dotted IPv4 tail as two groups. -/
def ipv6Tail? (cs : List Char) : Option (List Nat) := do
  let bytes ← (cs.splitOn '.').mapM ipv6Byte?
  match bytes with
  | [a, b, c, d] => return [a * 256 + b, c * 256 + d]
  | _ => none

/-- The groups of one side of a `::`; the last may be a dotted IPv4 tail when `tail`. -/
def ipv6Groups? (tail : Bool) (cs : List Char) : Option (List Nat) :=
  if cs.isEmpty then some []
  else
    let groups := cs.splitOn ':'
    match groups.getLast? with
    | none => some []
    | some last => do
      let front ← groups.dropLast.mapM ipv6Group?
      let back ← if tail ∧ last.contains '.' then ipv6Tail? last else (ipv6Group? last).map ([·])
      return front ++ back

/-- The first position of `::` in a list of characters. -/
def doubleColonAt : List Char → Nat → Option Nat
  | ':' :: ':' :: _, i => some i
  | _ :: rest, i => doubleColonAt rest (i + 1)
  | [], _ => none

/-- An IPv6 address (without its brackets) as eight groups. -/
def ipv6? (cs : List Char) : Option (List Nat) :=
  match doubleColonAt cs 0 with
  | none => do
    let groups ← ipv6Groups? true cs
    if groups.length = 8 then some groups else none
  | some i => do
    let head ← ipv6Groups? false (cs.take i)
    let tail ← ipv6Groups? true (cs.drop (i + 2))
    if head.length + tail.length ≤ 7 then
      some (head ++ List.replicate (8 - head.length - tail.length) 0 ++ tail)
    else none

/-- The longest run of zero groups, as `(start, length)`; the first of equal runs. -/
def longestZeroRun (groups : List Nat) : Nat × Nat :=
  let step (acc : (Nat × Nat) × Nat × Nat) (p : Nat × Nat) :=
    let (best, start, len) := acc
    if p.1 = 0 then
      let start := if len = 0 then p.2 else start
      let len := len + 1
      (if best.2 < len then (start, len) else best, start, len)
    else (best, 0, 0)
  (groups.zipIdx.foldl step ((0, 0), 0, 0)).1

def hexText (n : Nat) : String := String.ofList (Nat.toDigits 16 n)

/-- An IPv6 address in brackets, a run of two or more zero groups as `::`. -/
def ipv6Text (groups : List Nat) : String :=
  let (start, len) := longestZeroRun groups
  let join (gs : List Nat) := ":".intercalate (gs.map hexText)
  let body :=
    if len < 2 then join groups
    else join (groups.take start) ++ "::" ++ join (groups.drop (start + len))
  "[" ++ body ++ "]"

/-! ## Domains -/

/-- Decodes `%XX` escapes into bytes; a `%` without two hex digits stays. -/
def percentDecode : List UInt8 → List UInt8
  | 37 :: a :: b :: rest =>
    let ca := Char.ofNat a.toNat
    let cb := Char.ofNat b.toNat
    if isHexDigit ca ∧ isHexDigit cb then
      (hexDigitValue ca * 16 + hexDigitValue cb).toUInt8 :: percentDecode rest
    else 37 :: percentDecode (a :: b :: rest)
  | b :: rest => b :: percentDecode rest
  | [] => []

/-- Characters a domain may not hold. -/
def isForbiddenInDomain (c : Char) : Bool :=
  c.toNat ≤ 0x20 || c.toNat = 0x7F || "#%/:<>?@[\\]^|".toList.contains c

/-! ## Hosts -/

/-- A parsed host. -/
inductive Host where
  | domain (name : String)
  | ipv4 (address : Nat)
  | ipv6 (groups : List Nat)
  deriving DecidableEq, Repr

namespace Host

/-- Reads the host part of an `http` or `https` URL. -/
def parse? (text : String) : Option Host :=
  match text.toList with
  | '[' :: rest =>
    if rest.getLast? = some ']' then (ipv6? rest.dropLast).map .ipv6 else none
  | cs =>
    let decoded := String.fromUTF8? (ByteArray.mk (percentDecode (String.ofList cs).toUTF8.toList).toArray)
    match decoded with
    | none => none
    | some d =>
      match domainToAscii isForbiddenInDomain d.toList with
      | none => none
      | some ascii =>
        if ascii.isEmpty then none
        else if endsInNumber ascii.toList then (ipv4? ascii.toList).map .ipv4
        else some (.domain ascii)

def serialize : Host → String
  | .domain name => name
  | .ipv4 address => ipv4Text address
  | .ipv6 groups => ipv6Text groups

end Host

end Url

end HomePanel
