import HomePanel.Json.Reader
import HomePanel.Json.Text
import HomePanel.Text.Escaped

/-!
# Records of text fields

Reading a record whose fields all hold texts, either from JSON text or from a JSON value.
A record is written as an object (fields by name, in any order, unknown names stepped
over) or as an array (fields in their order). A field that is not given keeps its
default, so the reader gives one optional text per field.

The errors are those of a typed reader. A field written twice in an object is a
`duplicate field` error; a field value that is not a string, or a record that is neither
an object nor an array, is an `invalid type` error naming what was found and what was
expected; an array with more items than the record has fields is refused. Read from text,
these errors carry the position where they were found; read from a value, they carry none.
-/

namespace HomePanel

namespace Json

/-- How a value is named when it is not of the expected kind. -/
def kindText : Json → String
  | .null => "null"
  | .bool b => "boolean `" ++ (if b then "true" else "false") ++ "`"
  | .number (.nat n) => "integer `" ++ toString n ++ "`"
  | .number (.negInt i) => "integer `" ++ toString i ++ "`"
  | .number (.float x) => "floating point `" ++ NumberLayout.diagnostic.render x ++ "`"
  | .string s => "string " ++ Text.escapedQuote s
  | .array _ => "sequence"
  | .object _ => "map"

/-- The text of an `invalid type` error. -/
def invalidType (found : String) (expected : String) : String :=
  "invalid type: " ++ found ++ ", expected " ++ expected

/-- The text field values of a record given as a JSON value. -/
def stringRecord (recordName : String) (names : List String) (v : Json) :
    Except String (List (Option String)) :=
  let text (x : Json) : Except String String :=
    match x with
    | .string s => .ok s
    | other => .error (invalidType other.kindText "a string")
  match v with
  | .object fields => do
    for f in fields do
      if names.contains f.1 then
        let _ ← text f.2
    names.mapM fun name =>
      match fields.find? (fun f => f.1 == name) with
      | some (_, x) => (text x).map some
      | none => .ok none
  | .array items =>
    match (items.take names.length).mapM text with
    | .error e => .error e
    | .ok values =>
      if names.length < items.length then
        .error ("invalid length " ++ toString items.length ++ ", expected fewer elements in array")
      else .ok (values.map some ++ (List.replicate (names.length - values.length) none))
  | other => .error (invalidType other.kindText ("struct " ++ recordName))

end Json

namespace JsonRead

/-- Fails with a type error naming the value that stands at the next byte, after reading
it. -/
def unexpectedValue {α : Type} (expected : String) : JsonRead α := do
  let b ← peekOrZero
  let found ←
    if b == byte 'n' then do eat; ident ['u', 'l', 'l']; pure Json.null.kindText
    else if b == byte 't' then do eat; ident ['r', 'u', 'e']; pure (Json.bool true).kindText
    else if b == byte 'f' then do eat; ident ['a', 'l', 's', 'e']; pure (Json.bool false).kindText
    else if b == byte '-' then do eat; pure (Json.number (← number false)).kindText
    else if isDigit b then do pure (Json.number (← number true)).kindText
    else if b == byte '"' then do eat; pure (Json.string (← string)).kindText
    else if b == byte '[' then pure (Json.array []).kindText
    else if b == byte '\x7b' then pure (Json.object []).kindText
    else failPast .expectedValue
  fail (.custom (Json.invalidType found expected))

/-- Reads a string value. -/
def stringValue : JsonRead String := do
  match ← blank with
  | none => failPast .eofInValue
  | some b => if b == byte '"' then do eat; string else unexpectedValue "a string"

/-- Whether an array has another item, stepping over the comma before it. -/
def hasNextItem (first : Bool) : JsonRead Bool := do
  match ← blank with
  | none => failPast .eofInList
  | some b =>
    if b == byte ']' then return false
    else if first then return true
    else if b == byte ',' then do
      eat
      match ← blank with
      | some c => if c == byte ']' then failPast .trailingComma else return true
      | none => failPast .eofInValue
    else failPast .expectedCommaOrBracket

/-- Reads the items of a record given as an array, one per field; a field without an
item is `none`. -/
def recordItems : Nat → Bool → List (Option String) → JsonRead (List (Option String))
  | 0, _, acc => return acc.reverse
  | k + 1, first, acc => do
    if ← hasNextItem first then
      let v ← stringValue
      recordItems k false (some v :: acc)
    else recordItems k first (none :: acc)

/-- Reads the fields of a record given as an object, up to its closing brace (not
consumed). A field written twice ends the reading with the error's text. -/
def recordEntries (names : List String) :
    Nat → Bool → List (Option String) → JsonRead (Except String (List (Option String)))
  | 0, _, acc => return .ok acc
  | fuel + 1, first, acc => do
    let next ← do
      match ← blank with
      | none => failPast .eofInObject
      | some b =>
        if b == byte '\x7d' then pure none
        else if b == byte ',' && !first then do eat; pure (some (← blank))
        else if first then pure (some (some b))
        else failPast .expectedCommaOrBrace
    match next with
    | none => return .ok acc
    | some none => failPast .eofInValue
    | some (some c) =>
      if c == byte '"' then do
        eat
        let key ← string
        match names.idxOf? key with
        | some i =>
          if (acc[i]?).bind id |>.isSome then
            return .error ("duplicate field `" ++ key ++ "`")
          else do
            colon
            let v ← stringValue
            recordEntries names fuel false (acc.set i (some v))
        | none => do
          colon
          ignoreValue
          recordEntries names fuel false acc
      else if c == byte '\x7d' then failPast .trailingComma
      else failPast .keyNotString

/-- Reads the end of an array after its items. -/
def endItems : JsonRead Unit := do
  match ← blank with
  | some b =>
    if b == byte ']' then eat
    else if b == byte ',' then do
      eat
      match ← blank with
      | some c => if c == byte ']' then failPast .trailingComma else failPast .trailingCharacters
      | none => failPast .trailingCharacters
    else failPast .trailingCharacters
  | none => failPast .eofInList

/-- Reads the end of an object after its fields. -/
def endEntries : JsonRead Unit := do
  match ← blank with
  | some b =>
    if b == byte '\x7d' then eat
    else if b == byte ',' then failPast .trailingComma
    else failPast .trailingCharacters
  | none => failPast .eofInObject

/-- Reads a record of text fields, as an object or an array. -/
def stringRecord (recordName : String) (names : List String) :
    JsonRead (List (Option String)) := do
  match ← blank with
  | none => failPast .eofInValue
  | some b =>
    if b == byte '[' then do
      eat
      let values ← recordItems names.length true []
      endItems
      return values
    else if b == byte '\x7b' then do
      eat
      match ← recordEntries names (4 * (← budget)) true (names.map fun _ => none) with
      | .ok values =>
        endEntries
        return values
      | .error message =>
        -- the end of the object is still looked for before the error takes its place
        let _ ← blank
        if (← peekOrZero) == byte '\x7d' then eat
        fail (.custom message)
    else unexpectedValue ("struct " ++ recordName)

end JsonRead

end HomePanel
