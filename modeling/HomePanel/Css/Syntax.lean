/-!
# Reading CSS selectors

How a browser reads the text of a selector, after CSS Syntax Level 3. The input is first
preprocessed: a carriage return, a form feed and a CR LF pair each become one line feed, and
NUL becomes U+FFFD (a character is never a surrogate, the other case of the rule). It is then
read code point by code point. Inside a quoted string a backslash escapes what follows it:
one to six hex digits, and one blank after them, name a code point; a backslash before a line
feed is a line continuation and stands for nothing; before any other code point it stands
for that code point. An identifier is a run of letters, digits, `-`, `_` and non-ASCII code
points, with the same escapes.

`quotedValue?` is the value a text stands for between double quotes, and
`readAttributeSelector?` reads a selector `[name="value"]` that tests one attribute for
equality with a quoted value.
-/

namespace HomePanel

namespace Css

/-! ## Code points -/

/-- Whitespace after preprocessing: line feed, tab and space. -/
def isWhitespace (c : Char) : Bool := c == '\n' || c == '\t' || c == ' '

/-- `0` to `9`, `A` to `F` and `a` to `f`. -/
def isHexDigit (c : Char) : Bool :=
  c.isDigit || (0x41 ≤ c.toNat && c.toNat ≤ 0x46) || (0x61 ≤ c.toNat && c.toNat ≤ 0x66)

def hexDigitValue (c : Char) : Nat :=
  if c.isDigit then c.toNat - 0x30 else if c.toNat ≤ 0x46 then c.toNat - 0x37 else c.toNat - 0x57

/-- A code point that may start an identifier: a letter, `_` or one from U+0080 on. -/
def isIdentStart (c : Char) : Bool := c.isAlpha || c == '_' || 0x80 ≤ c.toNat

/-- A code point that may continue an identifier: one that may start it, a digit or `-`. -/
def isIdentChar (c : Char) : Bool := isIdentStart c || c.isDigit || c == '-'

/-! ## Preprocessing -/

/-- What preprocessing makes of one code point. -/
def preprocessChar (c : Char) : Char :=
  if c = '\r' ∨ c = '\x0c' then '\n' else if c = '\x00' then '\uFFFD' else c

def preprocess : List Char → List Char
  | [] => []
  | '\r' :: '\n' :: rest => '\n' :: preprocess rest
  | c :: rest => preprocessChar c :: preprocess rest

/-! ## Escapes -/

/-- Reads at most `n` more hex digits onto the number `acc`; with the input after them. -/
def consumeHexDigits : Nat → Nat → List Char → Nat × List Char
  | 0, acc, input => (acc, input)
  | _ + 1, acc, [] => (acc, [])
  | n + 1, acc, c :: rest =>
    if isHexDigit c then consumeHexDigits n (16 * acc + hexDigitValue c) rest else (acc, c :: rest)

theorem consumeHexDigits_length_le (n acc : Nat) (input : List Char) :
    (consumeHexDigits n acc input).2.length ≤ input.length := by
  induction n generalizing acc input with
  | zero => simp only [consumeHexDigits, Nat.le_refl]
  | succ n ih =>
    cases input with
    | nil => simp only [consumeHexDigits, Nat.le_refl]
    | cons c rest =>
      simp only [consumeHexDigits]
      split
      · exact Nat.le_trans (ih _ rest) (Nat.le_succ _)
      · exact Nat.le_refl _

/-- The code point a hex escape names: zero, a surrogate and a number past U+10FFFF name
U+FFFD. -/
def hexCodePoint (n : Nat) : Char :=
  if n = 0 ∨ (0xD800 ≤ n ∧ n ≤ 0xDFFF) ∨ 0x10FFFF < n then '\uFFFD' else Char.ofNat n

def dropOneWhitespace : List Char → List Char
  | c :: rest => if isWhitespace c then rest else c :: rest
  | [] => []

theorem dropOneWhitespace_length_le (input : List Char) :
    (dropOneWhitespace input).length ≤ input.length := by
  cases input with
  | nil => simp only [dropOneWhitespace, Nat.le_refl]
  | cons w rest =>
    simp only [dropOneWhitespace]
    split
    · exact Nat.le_succ _
    · exact Nat.le_refl _

/-- The code point an escape stands for, the backslash already read and the code point after
it not a line feed; with the input after the escape. -/
def consumeEscape : List Char → Char × List Char
  | [] => ('\uFFFD', [])
  | c :: rest =>
    if isHexDigit c then
      let digits := consumeHexDigits 5 (hexDigitValue c) rest
      (hexCodePoint digits.1, dropOneWhitespace digits.2)
    else (c, rest)

theorem consumeEscape_length_le (input : List Char) :
    (consumeEscape input).2.length ≤ input.length := by
  cases input with
  | nil => simp only [consumeEscape, Nat.le_refl]
  | cons c rest =>
    simp only [consumeEscape]
    split
    · have hdigits := consumeHexDigits_length_le 5 (hexDigitValue c) rest
      have hdrop := dropOneWhitespace_length_le (consumeHexDigits 5 (hexDigitValue c) rest).2
      simp only [List.length_cons]
      omega
    · simp only [List.length_cons]
      omega

/-! ## Strings -/

/-- What reading a string gives: a string token, `unclosed` when the input ends before the
closing code point (a parse error that still gives the string), or a bad string when a line
feed comes first. -/
inductive StringToken where
  | closed (value : List Char)
  | unclosed (value : List Char)
  | bad
  deriving DecidableEq, Repr

/-- Reads a string up to the code point `ending`, the opening one already read, appending to
`value` what each code point or escape stands for; with the input after the string. -/
def consumeString (ending : Char) (value : List Char) : List Char → StringToken × List Char
  | [] => (.unclosed value, [])
  | c :: rest =>
    if c = ending then (.closed value, rest)
    else if c = '\n' then (.bad, c :: rest)
    else if c = '\\' then
      match rest with
      | [] => (.unclosed value, [])
      | next :: after =>
        -- a backslash before a line feed is a line continuation
        if next = '\n' then consumeString ending value after
        else
          let escape := consumeEscape (next :: after)
          consumeString ending (value ++ [escape.1]) escape.2
    else consumeString ending (value ++ [c]) rest
termination_by input => input.length
decreasing_by
  all_goals simp only [List.length_cons]
  · omega
  · have := consumeEscape_length_le (next :: after)
    simp only [List.length_cons] at this
    omega
  · omega

/-- The value of a string that ends at the code point `ending`, and the input after it; none
when the string is bad or the input ends first. -/
def readString? (ending : Char) (input : List Char) : Option (List Char × List Char) :=
  match consumeString ending [] input with
  | (.closed value, rest) => some (value, rest)
  | _ => none

/-- The value a text stands for between double quotes: the text and the closing quote, read as
one string, end at that quote. -/
def quotedValue? (contents : String) : Option String :=
  match readString? '"' (preprocess (contents.toList ++ ['"'])) with
  | some (value, []) => some (String.ofList value)
  | _ => none

/-! ## Identifiers -/

/-- Whether the input starts with a valid escape: a backslash not followed by a line feed. -/
def startsEscape : List Char → Bool
  | '\\' :: rest => rest.head? != some '\n'
  | _ => false

/-- Whether the input would start an identifier. -/
def startsIdent : List Char → Bool
  | '-' :: rest =>
    match rest with
    | c :: _ => isIdentStart c || c == '-' || startsEscape rest
    | [] => false
  | c :: rest => isIdentStart c || startsEscape (c :: rest)
  | [] => false

/-- Reads the code points of an identifier onto `name`; with the input after it. -/
def consumeIdent (name : List Char) : List Char → List Char × List Char
  | [] => (name, [])
  | c :: rest =>
    if isIdentChar c then consumeIdent (name ++ [c]) rest
    else if startsEscape (c :: rest) then
      let escape := consumeEscape rest
      consumeIdent (name ++ [escape.1]) escape.2
    else (name, c :: rest)
termination_by input => input.length
decreasing_by
  all_goals simp only [List.length_cons]
  · omega
  · have := consumeEscape_length_le rest
    omega

/-- The code points of an identifier and the input after it; none when the input does not
start one. -/
def readIdent? (input : List Char) : Option (List Char × List Char) :=
  if startsIdent input then some (consumeIdent [] input) else none

/-! ## Attribute selectors -/

/-- A selector that tests one attribute for equality with a value. -/
structure AttributeSelector where
  name : String
  value : String
  deriving DecidableEq, Repr

def skipWhitespace (input : List Char) : List Char := input.dropWhile isWhitespace

/-- The input after the code point `c`, whitespace before it skipped; none when another code
point comes. -/
def expect? (c : Char) (input : List Char) : Option (List Char) :=
  match skipWhitespace input with
  | d :: rest => if d = c then some rest else none
  | [] => none

/-- Reads a selector `[name="value"]`, whitespace allowed around each part; none for any
other text. -/
def readAttributeSelector? (text : String) : Option AttributeSelector := do
  let input ← expect? '[' (preprocess text.toList)
  let (name, input) ← readIdent? (skipWhitespace input)
  let input ← expect? '=' input
  let input ← expect? '"' input
  let (value, input) ← readString? '"' input
  let input ← expect? ']' input
  if (skipWhitespace input).isEmpty then some ⟨String.ofList name, String.ofList value⟩ else none

end Css

end HomePanel
