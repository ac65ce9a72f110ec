/-!
# Percent-encoding

Two encodings of text for URLs, both over the UTF-8 bytes of each character, a byte that
is not kept written as `%` and two uppercase hex digits.

* A path segment (`encodeSegment`) keeps ASCII letters and digits and `- _ . ! ~ * ' ( )`.
* A form value (`formEncode`) keeps ASCII letters and digits and `* - . _`, and writes a
  space as `+`.

Neither output holds `/`, `?`, `&`, `=` or `#`, so an encoded value cannot break the
structure of the URL it is put in.
-/

namespace HomePanel

namespace Url

/-- The uppercase hex digit of a value below 16. -/
def hexDigitUpper (n : Nat) : Char :=
  if n < 10 then Char.ofNat ('0'.toNat + n) else Char.ofNat ('A'.toNat + n - 10)

/-- `%XX` for one byte. -/
def percentByte (b : UInt8) : List Char :=
  ['%', hexDigitUpper (b.toNat / 16), hexDigitUpper (b.toNat % 16)]

/-- Every UTF-8 byte of a character as `%XX`. -/
def percentChar (c : Char) : List Char :=
  (String.utf8EncodeChar c).flatMap percentByte

/-- ASCII letters and digits. -/
def isAsciiAlnum (c : Char) : Bool := c.isAlphanum

/-- The characters a path segment keeps as they are. -/
def segmentKeeps (c : Char) : Bool :=
  isAsciiAlnum c || ['-', '_', '.', '!', '~', '*', '\'', '(', ')'].contains c

/-- One character of a path segment, encoded. -/
def encodeSegmentChar (c : Char) : List Char :=
  if segmentKeeps c then [c] else percentChar c

/-- A text encoded as one path segment. -/
def encodeSegment (s : String) : String := String.ofList (s.toList.flatMap encodeSegmentChar)

/-- The characters a form value keeps as they are. -/
def formKeeps (c : Char) : Bool := isAsciiAlnum c || ['*', '-', '.', '_'].contains c

/-- One character of a form value, encoded. -/
def formEncodeChar (c : Char) : List Char :=
  if formKeeps c then [c] else if c = ' ' then ['+'] else percentChar c

/-- A text encoded as a form name or value. -/
def formEncode (s : String) : String := String.ofList (s.toList.flatMap formEncodeChar)

end Url

end HomePanel
