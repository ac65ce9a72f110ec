import HomePanel.Binary64.Text

/-!
# JSON values

A JSON value keeps what a reader of JSON text can tell apart: integers that fit 64 bits
stay integers (non-negative ones and negative ones apart, as the text wrote them), every
other number is a binary64 number, and an object keeps its fields in the order they were
first written. Writing a field that is already present replaces its value in place, so the
last write wins and the first position stays.
-/

namespace HomePanel

/-- A JSON number: a non-negative integer below `2 ^ 64`, a negative integer not below
`-2 ^ 63`, or a binary64 number. -/
inductive JsonNumber where
  | nat (n : Nat)
  | negInt (i : Int)
  | float (x : Binary64)
  deriving DecidableEq, Repr, Inhabited

/-- A JSON value; object fields in order. -/
inductive Json where
  | null
  | bool (b : Bool)
  | number (n : JsonNumber)
  | string (s : String)
  | array (items : List Json)
  | object (fields : List (String × Json))
  deriving Repr, Inhabited

namespace JsonNumber

/-- The number as binary64, rounding integers to the nearest. -/
def toBinary64 : JsonNumber → Binary64
  | .nat n => Binary64.ofNat n
  | .negInt i => Binary64.ofInt i
  | .float x => x

/-- Whether the number equals zero (`-0` included). -/
def isZero : JsonNumber → Bool
  | .nat n => n == 0
  | .negInt i => i == 0
  | .float x => x.isZero

/-- The number's JSON text: integers as written, binary64 numbers by `NumberLayout.json`. -/
def text : JsonNumber → String
  | .nat n => toString n
  | .negInt i => toString i
  | .float x => NumberLayout.json.render x

end JsonNumber

namespace Json

/-- The fields after writing `key := value`: a present key keeps its place and takes the
new value, a new key goes last. -/
def setField (fields : List (String × Json)) (key : String) (value : Json) :
    List (String × Json) :=
  if fields.any (fun f => f.1 == key) then
    fields.map (fun f => if f.1 == key then (key, value) else f)
  else fields ++ [(key, value)]

/-- The value of a field of an object; `none` for a missing field or a value that is not
an object. -/
def get? (value : Json) (key : String) : Option Json :=
  match value with
  | .object fields => (fields.find? (fun f => f.1 == key)).map Prod.snd
  | _ => none

def isObject : Json → Bool
  | .object _ => true
  | _ => false

end Json

end HomePanel
