import HomePanel.Unicode.Category

/-!
# Escaped quoting

A text in double quotes with backslash escapes, as diagnostic messages show it: `\0`, `\t`,
`\r`, `\n`, `\\` and `\"` for those characters, `\u{hex}` (lowercase, no leading zeros)
for the characters without a glyph of their own (controls, format characters, separators
other than the space, private use and unassigned code points, default-ignorable code points)
and for those that attach to the character before them, and every other character as
itself.
-/

namespace HomePanel

namespace Text

/-- Characters written as `\u{hex}`: those without a glyph of their own and those that
attach to the character before them. -/
def needsCodeEscape (c : Char) : Bool :=
  Unicode.isInvisible c || Unicode.isCombining c

/-- Lowercase hex digits of a number, without leading zeros. -/
def hexLower (n : Nat) : String :=
  String.ofList ((Nat.toDigits 16 n).map Char.toLower)

/-- One character inside escaped quotes. -/
def escapedChar (c : Char) : List Char :=
  if c.toNat = 0 then ['\\', '0']
  else if c = '\t' then ['\\', 't']
  else if c = '\r' then ['\\', 'r']
  else if c = '\n' then ['\\', 'n']
  else if c = '\\' then ['\\', '\\']
  else if c = '"' then ['\\', '"']
  else if needsCodeEscape c then ("\\u\x7b" ++ hexLower c.toNat ++ "\x7d").toList
  else [c]

/-- A text in double quotes with backslash escapes. -/
def escapedQuote (s : String) : String :=
  String.ofList ('"' :: s.toList.flatMap escapedChar ++ ['"'])

end Text

end HomePanel
