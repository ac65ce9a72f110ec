import HomePanel.Binary64.Text

/-!
# Request parameters

A parameter value is null, a boolean, a number, a text or a list of texts. Its parameter
text (`ParamValue.text?`) is what goes into a query: none for null, `true`/`false`, the
plain decimal of a number (`NumberLayout.plain`), the text itself, or the list joined by
commas. Its path text (`ParamValue.pathText`) is the same, with `null` spelled out.

A parameter map holds each name once, in the byte order of the names, which is also the
order of a query. Writing a name that is present replaces its value, so of two entries
with one name the later wins. Form fields become a map by grouping values by name: one
value stays as it is, several are joined by commas in the order they were given.
-/

namespace HomePanel

/-- A request parameter value. -/
inductive ParamValue where
  | null
  | bool (b : Bool)
  | number (x : Binary64)
  | text (s : String)
  | list (items : List String)
  deriving DecidableEq, Repr, Inhabited

namespace ParamValue

/-- The parameter text; `none` for null. -/
def text? : ParamValue → Option String
  | .null => none
  | .bool b => some (if b then "true" else "false")
  | .number x => some (NumberLayout.plain.render x)
  | .text s => some s
  | .list items => some (",".intercalate items)

/-- The path text: the parameter text, `null` for null. -/
def pathText (v : ParamValue) : String := v.text?.getD "null"

def isNull : ParamValue → Bool
  | .null => true
  | _ => false

end ParamValue

/-- Parameters by name, names in increasing order and each once. -/
structure ParamMap where
  entries : List (String × ParamValue)
  sorted : entries.Pairwise (fun a b => a.1 < b.1)
  deriving DecidableEq, Repr

namespace ParamMap

def empty : ParamMap := ⟨[], List.Pairwise.nil⟩

instance : Inhabited ParamMap := ⟨empty⟩

/-- The entries with `key := value` written into their place in the order. -/
def insertEntry (key : String) (value : ParamValue) :
    List (String × ParamValue) → List (String × ParamValue)
  | [] => [(key, value)]
  | (k, v) :: rest =>
    if key < k then (key, value) :: (k, v) :: rest
    else if key = k then (key, value) :: rest
    else (k, v) :: insertEntry key value rest

theorem mem_insertEntry {key : String} {value : ParamValue}
    {entries : List (String × ParamValue)} {e : String × ParamValue}
    (he : e ∈ insertEntry key value entries) :
    e.1 = key ∨ e ∈ entries := by
  induction entries with
  | nil =>
      simp only [insertEntry, List.mem_singleton] at he
      exact .inl (by rw [he])
  | cons entry rest ih =>
      obtain ⟨k, v⟩ := entry
      simp only [insertEntry] at he
      split at he
      · rcases List.mem_cons.mp he with h | h
        · exact .inl (by rw [h])
        · exact .inr h
      · split at he
        · rcases List.mem_cons.mp he with h | h
          · exact .inl (by rw [h])
          · exact .inr (List.mem_cons_of_mem _ h)
        · rcases List.mem_cons.mp he with h | h
          · exact .inr (h ▸ List.mem_cons_self)
          · rcases ih h with h' | h'
            · exact .inl h'
            · exact .inr (List.mem_cons_of_mem _ h')

theorem insertEntry_sorted (key : String) (value : ParamValue)
    {entries : List (String × ParamValue)}
    (hsorted : entries.Pairwise (fun a b => a.1 < b.1)) :
    (insertEntry key value entries).Pairwise (fun a b => a.1 < b.1) := by
  induction entries with
  | nil => simp [insertEntry]
  | cons entry rest ih =>
      obtain ⟨k, v⟩ := entry
      rw [List.pairwise_cons] at hsorted
      obtain ⟨hhead, hrest⟩ := hsorted
      simp only [insertEntry]
      split
      · next hlt =>
          refine List.Pairwise.cons ?_ (List.Pairwise.cons hhead hrest)
          intro e he
          rcases List.mem_cons.mp he with h | h
          · rw [h]
            exact hlt
          · exact String.lt_trans hlt (hhead e h)
      · split
        · next heq =>
            rw [heq]
            exact List.Pairwise.cons hhead hrest
        · next hlt hne =>
            have hkey : k < key :=
              Std.lt_of_le_of_ne (String.not_lt.mp hlt) (Ne.symm hne)
            refine List.Pairwise.cons ?_ (ih hrest)
            intro e he
            rcases mem_insertEntry he with h | h
            · rw [h]
              exact hkey
            · exact hhead e h

/-- Writes a parameter; a present name takes the new value. -/
def insert (m : ParamMap) (key : String) (value : ParamValue) : ParamMap :=
  ⟨insertEntry key value m.entries, insertEntry_sorted key value m.sorted⟩

/-- The map of a list of entries; of two entries with one name the later wins. -/
def ofList (entries : List (String × ParamValue)) : ParamMap :=
  entries.foldl (fun m e => m.insert e.1 e.2) empty

def get? (m : ParamMap) (key : String) : Option ParamValue :=
  (m.entries.find? (fun e => e.1 == key)).map Prod.snd

/-- Removes a parameter, giving back its value. -/
def take (m : ParamMap) (key : String) : Option ParamValue × ParamMap :=
  (m.get? key, ⟨m.entries.filter (fun e => e.1 != key), m.sorted.filter _⟩)

def toList (m : ParamMap) : List (String × ParamValue) := m.entries

def isEmpty (m : ParamMap) : Bool := m.entries.isEmpty

/-- Form values grouped by name, names in increasing order and each once, after one more
value: a name that has a group gets the value at the end of it, any other a group of its
own in its place. -/
def pushValue (name value : String) :
    List (String × List String) → List (String × List String)
  | [] => [(name, [value])]
  | (k, values) :: rest =>
    if name < k then (name, [value]) :: (k, values) :: rest
    else if name = k then (k, values ++ [value]) :: rest
    else (k, values) :: pushValue name value rest

/-- The values of form fields grouped by name, each name's values in the order given. -/
def groupValues (entries : List (String × String)) : List (String × List String) :=
  entries.foldl (fun groups e => pushValue e.1 e.2 groups) []

/-- The text of a name's values: a single value as it is, several joined by commas. -/
def joinValues : List String → String
  | [value] => value
  | values => ",".intercalate values

/-- Form fields as parameters: each name with the text of its grouped values. -/
def ofFormEntries (entries : List (String × String)) : ParamMap :=
  ofList ((groupValues entries).map fun g => (g.1, .text (joinValues g.2)))

end ParamMap

end HomePanel
