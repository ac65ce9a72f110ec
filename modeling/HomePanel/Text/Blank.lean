/-!
# Blank characters and trimming

A blank is a character with the Unicode `White_Space` property: tab, line feed, vertical
tab, form feed, carriage return, space, next line, no-break space, ogham space mark, the
spaces from en quad to hair space, line and paragraph separators, narrow no-break space,
medium mathematical space and ideographic space. Trimming removes blanks at the ends.
-/

namespace HomePanel

namespace Text

/-- Whether a character has the Unicode `White_Space` property. -/
def isBlank (c : Char) : Bool :=
  let n := c.toNat
  (9 ≤ n && n ≤ 13) || n == 32 || n == 0x85 || n == 0xA0 || n == 0x1680 ||
    (0x2000 ≤ n && n ≤ 0x200A) || n == 0x2028 || n == 0x2029 || n == 0x202F ||
    n == 0x205F || n == 0x3000

/-- The characters without the blanks at the start. -/
def trimStart (s : String) : String := String.ofList (s.toList.dropWhile isBlank)

/-- The characters without the blanks at the end. -/
def trimEnd (s : String) : String :=
  String.ofList (s.toList.reverse.dropWhile isBlank).reverse

/-- The characters without the blanks at either end. -/
def trim (s : String) : String := trimEnd (trimStart s)

/-- Whether a text is empty or all blanks. -/
def isBlankText (s : String) : Bool := s.toList.all isBlank

/-- The characters without every copy of `c` at the end. -/
def dropTrailing (c : Char) (s : String) : String :=
  String.ofList (s.toList.reverse.dropWhile (· == c)).reverse

/-- ASCII letters turned to upper case; every other character kept. -/
def asciiUpper (s : String) : String := s.map Char.toUpper

/-- ASCII letters turned to lower case; every other character kept. -/
def asciiLower (s : String) : String := s.map Char.toLower

end Text

end HomePanel
