/-!
# Code point tables

Tables of Unicode character data map ranges of code points to values. A table is written
as compact text, read once into an array of disjoint ranges sorted by their first code
point, and queried by binary search.

The text is a comma-separated list of entries `lo`, `lo-hi`, `lo:tag` or `lo-hi:tag`, the
code points in hexadecimal; an entry without `-hi` is the single code point `lo`. The tag is
turned into the range's value by a function given with the table.
-/

namespace HomePanel

namespace Unicode

/-- The value of a hexadecimal digit; other characters count as zero. -/
def hexDigitValue (c : Char) : Nat :=
  if '0' ≤ c ∧ c ≤ '9' then c.toNat - '0'.toNat
  else if 'A' ≤ c ∧ c ≤ 'F' then c.toNat - 'A'.toNat + 10
  else if 'a' ≤ c ∧ c ≤ 'f' then c.toNat - 'a'.toNat + 10
  else 0

/-- The value of a hexadecimal numeral. -/
def hexValue (s : String) : Nat := s.foldl (fun acc c => acc * 16 + hexDigitValue c) 0

/-- The code points of a dotted list of hexadecimal numerals, `41.301`; empty for the empty
text. -/
def hexList (s : String) : List Nat :=
  if s.isEmpty then [] else (s.splitOn ".").map hexValue

/-- Ranges `[lo, hi]` of code points with a value each, disjoint and sorted by `lo`. -/
structure RangeTable (α : Type) where
  entries : Array (Nat × Nat × α)

namespace RangeTable

variable {α : Type}

/-- One entry of the text form. -/
def entryOfText (tag : String → α) (entry : String) : Nat × Nat × α :=
  let (range, value) := match entry.splitOn ":" with
    | [r] => (r, "")
    | r :: v :: _ => (r, v)
    | [] => ("", "")
  match range.splitOn "-" with
  | [lo, hi] => (hexValue lo, hexValue hi, tag value)
  | _ => (hexValue range, hexValue range, tag value)

/-- Reads a table from its text form. -/
def ofText (tag : String → α) (text : String) : RangeTable α :=
  ⟨((text.splitOn ",").filter (!·.isEmpty)).toArray.map (entryOfText tag)⟩

/-- The number of entries whose range starts at or below `n`, searching between `lo` and
`hi`: every entry before `lo` starts at or below `n`, and none from `hi` on does. -/
def countStartingAtOrBelow (t : RangeTable α) (n : Nat) (lo hi : Nat) : Nat :=
  if lo < hi then
    let mid := lo + (hi - lo) / 2
    match t.entries[mid]? with
    | some (first, _, _) =>
      if first ≤ n then countStartingAtOrBelow t n (mid + 1) hi
      else countStartingAtOrBelow t n lo mid
    | none => lo
  else lo
termination_by hi - lo

/-- The value of the range that holds `n`, if any. -/
def find? (t : RangeTable α) (n : Nat) : Option α :=
  match countStartingAtOrBelow t n 0 t.entries.size with
  | 0 => none
  | k + 1 =>
    match t.entries[k]? with
    | some (_, last, value) => if n ≤ last then some value else none
    | none => none

/-- Whether some range holds `n`. -/
def contains (t : RangeTable α) (n : Nat) : Bool := (t.find? n).isSome

end RangeTable

end Unicode

end HomePanel
