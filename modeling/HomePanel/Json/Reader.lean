import HomePanel.Json.Value

/-!
# Reading JSON text

`Json.parse` reads one JSON value from a text and refuses anything after it but blanks.
Blanks are space, tab, line feed and carriage return. Reading works on the UTF-8 bytes of
the text, and an error names its cause and the line and column of the byte where it was
found: the line counts line feeds before that byte, the column counts bytes since the last
one. Some causes are reported at the byte being looked at, others just past it; each
primitive below says which.

Numbers follow the rules of the value type. An integer that fits keeps its exact value.
Other numbers gather at most 64 bits of significand: digits that do not fit are dropped
(after the point) or counted into the exponent (before it). The significand is rounded to
binary64 and then multiplied or divided by the binary64 power of ten; a product that
overflows is an error. Containers nest at most 127 deep. Strings must be well formed: no
raw control characters, only the known escapes, and surrogates only in pairs.

`Json.ignoreValue` steps over a value without building it. It has slightly looser rules:
numbers are not range-checked, escapes are not decoded, and nesting is not limited.
-/

namespace HomePanel

/-- Why reading JSON text stopped. -/
inductive ReadErrorCode where
  | eofInList
  | eofInObject
  | eofInString
  | eofInValue
  | expectedColon
  | expectedCommaOrBracket
  | expectedCommaOrBrace
  | expectedIdent
  | expectedValue
  | invalidEscape
  | invalidNumber
  | numberOutOfRange
  | controlCharacter
  | keyNotString
  | loneSurrogate
  | trailingComma
  | trailingCharacters
  | unexpectedEndOfHexEscape
  | tooDeep
  /-- A cause found by the reader of a typed value (wrong kind, duplicate field). -/
  | custom (message : String)
  deriving DecidableEq, Repr

namespace ReadErrorCode

def message : ReadErrorCode → String
  | .eofInList => "EOF while parsing a list"
  | .eofInObject => "EOF while parsing an object"
  | .eofInString => "EOF while parsing a string"
  | .eofInValue => "EOF while parsing a value"
  | .expectedColon => "expected `:`"
  | .expectedCommaOrBracket => "expected `,` or `]`"
  | .expectedCommaOrBrace => "expected `,` or `\x7d`"
  | .expectedIdent => "expected ident"
  | .expectedValue => "expected value"
  | .invalidEscape => "invalid escape"
  | .invalidNumber => "invalid number"
  | .numberOutOfRange => "number out of range"
  | .controlCharacter => "control character (\\u0000-\\u001F) found while parsing a string"
  | .keyNotString => "key must be a string"
  | .loneSurrogate => "lone leading surrogate in hex escape"
  | .trailingComma => "trailing comma"
  | .trailingCharacters => "trailing characters"
  | .unexpectedEndOfHexEscape => "unexpected end of hex escape"
  | .tooDeep => "recursion limit exceeded"
  | .custom m => m

end ReadErrorCode

/-- A reading error: its cause and, when known, its line and column. -/
structure ReadError where
  code : ReadErrorCode
  position : Option (Nat × Nat)
  deriving DecidableEq, Repr

namespace ReadError

/-- The error's text: the cause, then ` at line L column C` when the place is known. -/
def message (e : ReadError) : String :=
  match e.position with
  | some (line, column) =>
    e.code.message ++ " at line " ++ toString line ++ " column " ++ toString column
  | none => e.code.message

end ReadError

/-- Reading from fixed bytes; the state is the index of the next byte. -/
abbrev JsonRead := ReaderT ByteArray (StateT Nat (Except ReadError))

namespace JsonRead

/-- Line and column of a byte index: one more than the line feeds before it, and the
bytes between the last of them and the index. -/
def positionOf (bytes : ByteArray) (i : Nat) : Nat × Nat :=
  let before := bytes.toList.take i
  let feeds := before.count 10
  let lineStart := before.length - (before.reverse.takeWhile (· != 10)).length
  (1 + feeds, i - lineStart)

/-- The next byte, not consumed. -/
def peekByte : JsonRead (Option UInt8) := do
  let bytes ← read
  let i ← get
  return bytes[i]?

/-- Consumes one byte. -/
def eat : JsonRead Unit := modify (· + 1)

/-- The next byte, consumed when there is one. -/
def nextByte : JsonRead (Option UInt8) := do
  let b ← peekByte
  if b.isSome then eat
  return b

/-- Fails with the position of byte `i`. -/
def failAt {α : Type} (code : ReadErrorCode) (i : Nat) : JsonRead α := do
  let bytes ← read
  throw ⟨code, some (positionOf bytes i)⟩

/-- Fails at the current byte. -/
def fail {α : Type} (code : ReadErrorCode) : JsonRead α := do
  failAt code (← get)

/-- Fails just past the current byte (at the end, at the end). -/
def failPast {α : Type} (code : ReadErrorCode) : JsonRead α := do
  let bytes ← read
  let i ← get
  failAt code (min (i + 1) bytes.size)

/-- The number of bytes left, plus one: enough steps for any loop that consumes a byte
per step. -/
def budget : JsonRead Nat := do
  let bytes ← read
  let i ← get
  return bytes.size - i + 1

def isBlank (b : UInt8) : Bool := b == 32 || b == 10 || b == 9 || b == 13

def isDigit (b : UInt8) : Bool := 48 ≤ b && b ≤ 57

def byte (c : Char) : UInt8 := c.toUInt8

/-- Skips blanks for at most `fuel` bytes; the next byte, if any. -/
def skipBlanks : Nat → JsonRead (Option UInt8)
  | 0 => peekByte
  | fuel + 1 => do
    match ← peekByte with
    | some b => if isBlank b then do eat; skipBlanks fuel else return some b
    | none => return none

/-- Skips blanks; the next byte, if any. -/
def blank : JsonRead (Option UInt8) := do skipBlanks (← budget)

/-- Reads the rest of a literal word; a wrong byte fails just after it. -/
def ident : List Char → JsonRead Unit
  | [] => return ()
  | c :: rest => do
    match ← nextByte with
    | none => fail .eofInValue
    | some b => if b == byte c then ident rest else fail .expectedIdent

/-- The value of a hex digit. -/
def hexValue (b : UInt8) : Option Nat :=
  if 48 ≤ b ∧ b ≤ 57 then some (b.toNat - 48)
  else if 65 ≤ b ∧ b ≤ 70 then some (b.toNat - 55)
  else if 97 ≤ b ∧ b ≤ 102 then some (b.toNat - 87)
  else none

/-- Reads the four hex digits of a `\u` escape. Fewer than four bytes left fails at the
end; a non-hex digit fails after the four. -/
def hex4 : JsonRead Nat := do
  let bytes ← read
  let i ← get
  if i + 4 ≤ bytes.size then
    set (i + 4)
    let digits := [bytes[i]!, bytes[i + 1]!, bytes[i + 2]!, bytes[i + 3]!].map hexValue
    match digits with
    | [some a, some b, some c, some d] => return ((a * 16 + b) * 16 + c) * 16 + d
    | _ => fail .invalidEscape
  else
    set bytes.size
    fail .eofInString

/-- The bytes with the UTF-8 encoding of a code point added. -/
def pushCodePoint (acc : ByteArray) (n : Nat) : ByteArray :=
  acc ++ (String.singleton (Char.ofNat n)).toUTF8

/-- Reads a `\u` escape after its `u`: a code point outside the surrogates, or a leading
surrogate followed at once by a `\u` escape of a trailing one. -/
def unicodeEscape (acc : ByteArray) : JsonRead ByteArray := do
  let n ← hex4
  if 0xDC00 ≤ n ∧ n ≤ 0xDFFF then fail .loneSurrogate
  else if n < 0xD800 ∨ 0xDBFF < n then return pushCodePoint acc n
  else
    match ← peekByte with
    | none => fail .eofInString
    | some b =>
      eat
      if b != byte '\\' then fail .unexpectedEndOfHexEscape
      else
        match ← peekByte with
        | none => fail .eofInString
        | some u =>
          eat
          if u != byte 'u' then fail .unexpectedEndOfHexEscape
          else
            let n2 ← hex4
            if n2 < 0xDC00 ∨ 0xDFFF < n2 then fail .loneSurrogate
            else return pushCodePoint acc ((n - 0xD800) * 0x400 + (n2 - 0xDC00) + 0x10000)

/-- Reads an escape after its backslash. -/
def escape (acc : ByteArray) : JsonRead ByteArray := do
  match ← nextByte with
  | none => fail .eofInString
  | some c =>
    if c == byte '"' then return acc.push c
    else if c == byte '\\' then return acc.push c
    else if c == byte '/' then return acc.push c
    else if c == byte 'b' then return acc.push 8
    else if c == byte 'f' then return acc.push 12
    else if c == byte 'n' then return acc.push 10
    else if c == byte 'r' then return acc.push 13
    else if c == byte 't' then return acc.push 9
    else if c == byte 'u' then unicodeEscape acc
    else fail .invalidEscape

/-- Reads string bytes up to the closing quote, with escapes resolved. A raw control
character fails just past it. -/
def stringBytes : Nat → ByteArray → JsonRead ByteArray
  | 0, acc => return acc
  | fuel + 1, acc => do
    match ← peekByte with
    | none => fail .eofInString
    | some b =>
      eat
      if b == byte '"' then return acc
      else if b == byte '\\' then stringBytes fuel (← escape acc)
      else if b < 32 then fail .controlCharacter
      else stringBytes fuel (acc.push b)

/-- Reads the rest of a string after its opening quote. -/
def string : JsonRead String := do
  let bytes ← stringBytes (← budget) ByteArray.empty
  return (String.fromUTF8? bytes).getD ""

/-- Steps over an escape after its backslash, without decoding it. -/
def skipEscape : JsonRead Unit := do
  match ← nextByte with
  | none => fail .eofInString
  | some c =>
    if c == byte 'u' then do let _ ← hex4; return ()
    else if [byte '"', byte '\\', byte '/', byte 'b', byte 'f', byte 'n', byte 'r',
        byte 't'].contains c then return ()
    else fail .invalidEscape

/-- Steps over the rest of a string; a raw control character fails at itself. -/
def skipStringBytes : Nat → JsonRead Unit
  | 0 => return ()
  | fuel + 1 => do
    match ← peekByte with
    | none => fail .eofInString
    | some b =>
      if b == byte '"' then eat
      else if b == byte '\\' then do eat; skipEscape; skipStringBytes fuel
      else if b < 32 then fail .controlCharacter
      else do eat; skipStringBytes fuel

/-- Steps over the rest of a string after its opening quote. -/
def skipString : JsonRead Unit := do skipStringBytes (← budget)

/-! ### Numbers -/

/-- The binary64 power of ten `10 ^ k`, correctly rounded. -/
def pow10 (k : Nat) : Binary64 := Binary64.ofDecimal false 1 k

/-- `f · 10 ^ e` by one product or quotient with a power of ten up to `10 ^ 308`; larger
negative exponents divide by `10 ^ 308` first. `none` when the product is infinite or
the exponent is too large for a non-zero value. -/
def scaleByPow10 (f : Binary64) : Int → Nat → Option Binary64
  | _, 0 => some f
  | e, fuel + 1 =>
    if e.natAbs ≤ 308 then
      if 0 ≤ e then
        let g := Binary64.mul f (pow10 e.natAbs)
        if g.isInfinite then none else some g
      else some (Binary64.div f (pow10 e.natAbs))
    else if f.isZero then some f
    else if 0 ≤ e then none
    else scaleByPow10 (Binary64.div f (pow10 308)) (e + 308) fuel

/-- The number with the gathered significand and decimal exponent. -/
def fromParts (positive : Bool) (sig : Nat) (e : Int) : JsonRead Binary64 :=
  match scaleByPow10 (Binary64.ofNat sig) e 8 with
  | some f => return (if positive then f else f.neg)
  | none => fail .numberOutOfRange

/-- Whether `sig · 10 + d` leaves 64 bits. -/
def overflows64 (sig d : Nat) : Bool :=
  decide (1844674407370955161 ≤ sig) && (decide (1844674407370955161 < sig) || decide (5 < d))

/-- Whether `e · 10 + d` leaves 31 bits. -/
def overflows31 (e d : Nat) : Bool :=
  decide (214748364 ≤ e) && (decide (214748364 < e) || decide (7 < d))

/-- Clamps to the 32-bit signed range. -/
def clamp32 (e : Int) : Int := max (-2147483648) (min 2147483647 e)

/-- Steps over digits. -/
def skipDigits : Nat → JsonRead Unit
  | 0 => return ()
  | fuel + 1 => do
    match ← peekByte with
    | some b => if isDigit b then do eat; skipDigits fuel else return ()
    | none => return ()

/-- The peeked byte, or `0` at the end. -/
def peekOrZero : JsonRead UInt8 := do return (← peekByte).getD 0

/-- Reads exponent digits after the first one; a digit that takes the exponent past 31
bits is consumed before the fault is raised. -/
def exponentDigits (zeroSig positiveExp : Bool) :
    Nat → Nat → JsonRead (Option Nat)
  | 0, e => return some e
  | fuel + 1, e => do
    let b ← peekOrZero
    if isDigit b then
      eat
      let d := (b - 48).toNat
      if overflows31 e d then
        if !zeroSig && positiveExp then fail .numberOutOfRange
        else do skipDigits (← budget); return none
      else exponentDigits zeroSig positiveExp fuel (e * 10 + d)
    else return some e

/-- Reads an exponent part from its `e`. An exponent past 31 bits gives zero, or fails when
it is positive and the significand is not zero. -/
def exponent (positive : Bool) (sig : Nat) (start : Int) : JsonRead Binary64 := do
  eat
  let positiveExp ← do
    let b ← peekOrZero
    if b == byte '+' then do eat; pure true
    else if b == byte '-' then do eat; pure false
    else pure true
  match ← nextByte with
  | none => fail .eofInValue
  | some c =>
    if !isDigit c then fail .invalidNumber
    else
      match ← exponentDigits (sig == 0) positiveExp (← budget) (c - 48).toNat with
      | none => return Binary64.signedZero (!positive)
      | some e =>
        let finalExp := clamp32 (if positiveExp then start + e else start - e)
        fromParts positive sig finalExp

/-- After a significand that filled 64 bits in the fraction: the rest of the digits are
dropped. -/
def decimalOverflow (positive : Bool) (sig : Nat) (e : Int) : JsonRead Binary64 := do
  skipDigits (← budget)
  let b ← peekOrZero
  if b == byte 'e' || b == byte 'E' then exponent positive sig e else fromParts positive sig e

/-- Reads fraction digits; `after` counts them, negatively. -/
def fractionDigits (positive : Bool) (before : Int) : Nat → Nat → Int → JsonRead Binary64
  | 0, sig, after => fromParts positive sig (before + after)
  | fuel + 1, sig, after => do
    let b ← peekOrZero
    if isDigit b then
      let d := (b - 48).toNat
      if overflows64 sig d then decimalOverflow positive sig (before + after)
      else do eat; fractionDigits positive before fuel (sig * 10 + d) (after - 1)
    else if after == 0 then
      match ← peekByte with
      | some _ => failPast .invalidNumber
      | none => failPast .eofInValue
    else if b == byte 'e' || b == byte 'E' then exponent positive sig (before + after)
    else fromParts positive sig (before + after)

/-- Reads a fraction part from its point. -/
def fraction (positive : Bool) (sig : Nat) (before : Int) : JsonRead Binary64 := do
  eat
  fractionDigits positive before (← budget) sig 0

/-- After an integer that filled 64 bits: further digits count into the exponent. -/
def longInteger (positive : Bool) (sig : Nat) : Nat → Int → JsonRead Binary64
  | 0, e => fromParts positive sig e
  | fuel + 1, e => do
    let b ← peekOrZero
    if isDigit b then do eat; longInteger positive sig fuel (e + 1)
    else if b == byte '.' then fraction positive sig e
    else if b == byte 'e' || b == byte 'E' then exponent positive sig e
    else fromParts positive sig e

/-- What follows the integer digits: a fraction, an exponent, or the end of the number. A
negative integer stays an integer when it fits 64 signed bits and is not zero. -/
def numberTail (positive : Bool) (sig : Nat) : JsonRead JsonNumber := do
  let b ← peekOrZero
  if b == byte '.' then return .float (← fraction positive sig 0)
  else if b == byte 'e' || b == byte 'E' then return .float (← exponent positive sig 0)
  else if positive then return .nat sig
  else if sig = 0 ∨ Nat.pow 2 63 < sig then return .float (Binary64.ofNat sig).neg
  else return .negInt (-(sig : Int))

/-- Reads integer digits after the first. -/
def integerDigits (positive : Bool) : Nat → Nat → JsonRead JsonNumber
  | 0, sig => numberTail positive sig
  | fuel + 1, sig => do
    let b ← peekOrZero
    if isDigit b then
      let d := (b - 48).toNat
      if overflows64 sig d then return .float (← longInteger positive sig (← budget) 0)
      else do eat; integerDigits positive fuel (sig * 10 + d)
    else numberTail positive sig

/-- Reads a number after its sign. A leading zero may not be followed by a digit. -/
def number (positive : Bool) : JsonRead JsonNumber := do
  match ← nextByte with
  | none => fail .eofInValue
  | some b =>
    if b == byte '0' then
      if isDigit (← peekOrZero) then failPast .invalidNumber else numberTail positive 0
    else if isDigit b then integerDigits positive (← budget) (b - 48).toNat
    else fail .invalidNumber

/-- Steps over an exponent part from its `e`. -/
def skipExponent : JsonRead Unit := do
  eat
  let b ← peekOrZero
  if b == byte '+' || b == byte '-' then eat
  match ← nextByte with
  | some c => if isDigit c then skipDigits (← budget) else fail .invalidNumber
  | none => fail .invalidNumber

/-- Steps over a number after its sign, without range checks. -/
def skipNumber : JsonRead Unit := do
  let b ← peekOrZero
  if b == byte '0' then
    eat
    if isDigit (← peekOrZero) then failPast .invalidNumber
  else if isDigit b then do eat; skipDigits (← budget)
  else
    if (← peekByte).isSome then eat
    fail .invalidNumber
  let c ← peekOrZero
  if c == byte '.' then
    eat
    let d ← peekOrZero
    if !isDigit d then failPast .invalidNumber
    skipDigits (← budget)
    let e ← peekOrZero
    if e == byte 'e' || e == byte 'E' then skipExponent
  else if c == byte 'e' || c == byte 'E' then skipExponent

/-! ### Values -/

/-- Reads `:` between a key and its value. -/
def colon : JsonRead Unit := do
  match ← blank with
  | some b => if b == byte ':' then eat else failPast .expectedColon
  | none => failPast .eofInObject

mutual

/-- Reads one value; `depth` is the nesting still allowed, plus one. -/
def valueAt (depth : Nat) : Nat → JsonRead Json
  | 0 => failPast .eofInValue
  | fuel + 1 => do
    match ← blank with
    | none => failPast .eofInValue
    | some b =>
      if b == byte 'n' then do eat; ident ['u', 'l', 'l']; return .null
      else if b == byte 't' then do eat; ident ['r', 'u', 'e']; return .bool true
      else if b == byte 'f' then do eat; ident ['a', 'l', 's', 'e']; return .bool false
      else if b == byte '-' then do eat; return .number (← number false)
      else if isDigit b then return .number (← number true)
      else if b == byte '"' then do eat; return .string (← string)
      else if b == byte '[' then
        if depth ≤ 1 then failPast .tooDeep
        else do eat; return .array (← itemsAt (depth - 1) fuel true [])
      else if b == byte '\x7b' then
        if depth ≤ 1 then failPast .tooDeep
        else do eat; return .object (← fieldsAt (depth - 1) fuel true [])
      else failPast .expectedValue

/-- Reads the items of an array up to and including its closing bracket. -/
def itemsAt (depth : Nat) : Nat → Bool → List Json → JsonRead (List Json)
  | 0, _, acc => return acc.reverse
  | fuel + 1, first, acc => do
    match ← blank with
    | none => failPast .eofInList
    | some b =>
      if b == byte ']' then do eat; return acc.reverse
      else if first then do
        let v ← valueAt depth fuel
        itemsAt depth fuel false (v :: acc)
      else if b == byte ',' then do
        eat
        match ← blank with
        | none => failPast .eofInValue
        | some c =>
          if c == byte ']' then failPast .trailingComma
          else do
            let v ← valueAt depth fuel
            itemsAt depth fuel false (v :: acc)
      else failPast .expectedCommaOrBracket

/-- Reads the fields of an object up to and including its closing brace. -/
def fieldsAt (depth : Nat) : Nat → Bool → List (String × Json) →
    JsonRead (List (String × Json))
  | 0, _, acc => return acc
  | fuel + 1, first, acc => do
    let next ← do
      match ← blank with
      | none => failPast .eofInObject
      | some b =>
        if b == byte '\x7d' then pure none
        else if b == byte ',' && !first then do eat; pure (some (← blank))
        else if first then pure (some (some b))
        else failPast .expectedCommaOrBrace
    match next with
    | none => do eat; return acc
    | some none => failPast .eofInValue
    | some (some c) =>
      if c == byte '"' then do
        eat
        let key ← string
        colon
        let v ← valueAt depth fuel
        fieldsAt depth fuel false (Json.setField acc key v)
      else if c == byte '\x7d' then failPast .trailingComma
      else failPast .keyNotString

end

/-- Reads one value, nested at most 127 deep. -/
def value : JsonRead Json := do valueAt 128 (4 * (← budget))

/-- Fails when anything but blanks is left. -/
def finish : JsonRead Unit := do
  match ← blank with
  | some _ => failPast .trailingCharacters
  | none => return ()

mutual

/-- Steps over values with an explicit stack of open brackets. `enclosing` is the
innermost open bracket when the next token starts an item of it. -/
def skipOuter : Nat → Option UInt8 → List UInt8 → JsonRead Unit
  | 0, _, _ => return ()
  | fuel + 1, enclosing, stack => do
    let b ← match ← blank with
      | none => failPast .eofInValue
      | some b => pure b
    let opened ← do
      if b == byte 'n' then do eat; ident ['u', 'l', 'l']; pure none
      else if b == byte 't' then do eat; ident ['r', 'u', 'e']; pure none
      else if b == byte 'f' then do eat; ident ['a', 'l', 's', 'e']; pure none
      else if b == byte '-' then do eat; skipNumber; pure none
      else if isDigit b then do skipNumber; pure none
      else if b == byte '"' then do eat; skipString; pure none
      else if b == byte '[' || b == byte '\x7b' then do eat; pure (some b)
      else failPast .expectedValue
    match opened with
    | some frame => skipInner fuel false frame (enclosing.toList ++ stack)
    | none =>
      match enclosing with
      | some frame => skipInner fuel true frame stack
      | none =>
        match stack with
        | frame :: rest => skipInner fuel true frame rest
        | [] => return ()

/-- Inside bracket `frame`: closes finished brackets, then steps past a comma or the
start of a first item, and the key of an object field. -/
def skipInner : Nat → Bool → UInt8 → List UInt8 → JsonRead Unit
  | 0, _, _, _ => return ()
  | fuel + 1, acceptComma, frame, stack => do
    let closing := if frame == byte '[' then byte ']' else byte '\x7d'
    match ← blank with
    | none => failPast (if frame == byte '[' then .eofInList else .eofInObject)
    | some b =>
      if b == byte ',' && acceptComma then do
        eat
        skipKey fuel frame stack
      else if b == closing then do
        eat
        match stack with
        | next :: rest => skipInner fuel true next rest
        | [] => return ()
      else if acceptComma then
        failPast (if frame == byte '[' then .expectedCommaOrBracket else .expectedCommaOrBrace)
      else skipKey fuel frame stack

/-- Before an item of bracket `frame`: for an object, steps over the key and colon. -/
def skipKey : Nat → UInt8 → List UInt8 → JsonRead Unit
  | 0, _, _ => return ()
  | fuel + 1, frame, stack => do
    if frame == byte '\x7b' then
      match ← blank with
      | some b => if b == byte '"' then eat else failPast .keyNotString
      | none => failPast .eofInObject
      skipString
      match ← blank with
      | some b => if b == byte ':' then eat else failPast .expectedColon
      | none => failPast .eofInObject
    skipOuter fuel (some frame) stack

end

/-- Steps over one value without building it. -/
def ignoreValue : JsonRead Unit := do skipOuter (4 * (← budget)) none []

/-- Runs a reading over the UTF-8 bytes of a text. -/
def runOn {α : Type} (r : JsonRead α) (text : String) : Except ReadError α :=
  StateT.run' (ReaderT.run r text.toUTF8) 0

end JsonRead

namespace Json

/-- Reads a text holding one JSON value and nothing else but blanks. -/
def parse (text : String) : Except ReadError Json :=
  JsonRead.runOn (do let v ← JsonRead.value; JsonRead.finish; return v) text

end Json

end HomePanel
