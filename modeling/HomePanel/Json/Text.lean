import HomePanel.Json.Value

/-!
# JSON text

Writing a value as JSON text, compact (`Json.compact`) or indented by two spaces per level
(`Json.pretty`). Strings are quoted with one rule per character (`escapeChar`): the quote and
the backslash take a backslash, the control characters below U+0020 take their short escape
(`\b`, `\t`, `\n`, `\f`, `\r`) or `\u00xx` with lowercase hex, and every other character,
non-ASCII included, is written as itself. Fields are written in their stored order.
-/

namespace HomePanel

namespace Json

/-- The lowercase hex digit of a value below 16. -/
def hexDigitLower (n : Nat) : Char :=
  if n < 10 then Char.ofNat ('0'.toNat + n) else Char.ofNat ('a'.toNat + n - 10)

/-- The characters that stand for one character inside a quoted string. -/
def escapeChar (c : Char) : List Char :=
  if c = '"' then ['\\', '"']
  else if c = '\\' then ['\\', '\\']
  else if c = '\n' then ['\\', 'n']
  else if c = '\t' then ['\\', 't']
  else if c = '\r' then ['\\', 'r']
  else if c.toNat = 8 then ['\\', 'b']
  else if c.toNat = 12 then ['\\', 'f']
  else if c.toNat < 32 then
    ['\\', 'u', '0', '0', hexDigitLower (c.toNat / 16), hexDigitLower (c.toNat % 16)]
  else [c]

/-- A string as a quoted JSON string. -/
def quote (s : String) : String :=
  String.ofList ('"' :: (s.toList.flatMap escapeChar ++ ['"']))

mutual

/-- Compact JSON text: no blanks between tokens. -/
def compact : Json → String
  | .null => "null"
  | .bool b => if b then "true" else "false"
  | .number n => n.text
  | .string s => quote s
  | .array items => "[" ++ ",".intercalate (compactItems items) ++ "]"
  | .object fields => "\x7b" ++ ",".intercalate (compactFields fields) ++ "\x7d"

/-- The compact texts of the items of an array. -/
def compactItems : List Json → List String
  | [] => []
  | v :: rest => compact v :: compactItems rest

/-- The compact texts `"key":value` of the fields of an object. -/
def compactFields : List (String × Json) → List String
  | [] => []
  | (k, v) :: rest => (quote k ++ ":" ++ compact v) :: compactFields rest

end

/-- A line break followed by the indentation of the given depth. -/
def newline (depth : Nat) : String :=
  "\n" ++ String.ofList (List.replicate (2 * depth) ' ')

mutual

/-- Indented JSON text at the given depth: each item of a non-empty container on a line
of its own, one level deeper than the brackets; `key: value` for fields. -/
def prettyAt (depth : Nat) : Json → String
  | .array [] => "[]"
  | .object [] => "\x7b\x7d"
  | .array items =>
    "[" ++ ",".intercalate (prettyItems (depth + 1) items) ++ newline depth ++ "]"
  | .object fields =>
    "\x7b" ++ ",".intercalate (prettyFields (depth + 1) fields) ++ newline depth ++ "\x7d"
  | .null => "null"
  | .bool b => if b then "true" else "false"
  | .number n => n.text
  | .string s => quote s

/-- The items of an array, each on a new line at the given depth. -/
def prettyItems (depth : Nat) : List Json → List String
  | [] => []
  | v :: rest => (newline depth ++ prettyAt depth v) :: prettyItems depth rest

/-- The fields of an object, each on a new line at the given depth. -/
def prettyFields (depth : Nat) : List (String × Json) → List String
  | [] => []
  | (k, v) :: rest =>
    (newline depth ++ quote k ++ ": " ++ prettyAt depth v) :: prettyFields depth rest

end

/-- Indented JSON text. -/
def pretty (v : Json) : String := prettyAt 0 v

end Json

end HomePanel
