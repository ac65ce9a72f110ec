/-!
# Selector text

How the panel names page elements in CSS: a dataset key `deviceId` is the attribute
`data-device-id` (each ASCII capital becomes `-` and its small letter), and a value is
escaped for a quoted attribute selector by putting a backslash before every character that
is not an ASCII letter or digit, `_` or `-`.
-/

namespace HomePanel

namespace Selector

/-- Whether a character stands unescaped in a selector value. -/
def isPlain (c : Char) : Bool := c.isAlphanum || c == '_' || c == '-'

/-- One character of a selector value, escaped when it is not plain. -/
def escapeChar (c : Char) : List Char := if isPlain c then [c] else ['\\', c]

/-- A value escaped for a CSS selector. -/
def cssEscape (value : String) : String := String.ofList (value.toList.flatMap escapeChar)

/-- The attribute of a dataset key: `data-`, each ASCII capital as `-` and its small letter. -/
def datasetAttribute (key : String) : String :=
  "data-" ++ String.ofList (key.toList.flatMap fun c =>
    if c.isUpper then ['-', c.toLower] else [c])

/-- The selector of elements whose dataset key has the value. -/
def dataSelector (key value : String) : String :=
  "[" ++ datasetAttribute key ++ "=\"" ++ cssEscape value ++ "\"]"

end Selector

end HomePanel
