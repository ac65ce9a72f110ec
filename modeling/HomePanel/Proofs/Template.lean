import HomePanel.Proofs.Url.Form

/-!
# Placeholder matching and template expansion

`Template.pieces` reads a template as plain characters and placeholders. `Scan`
states the matching rule on its own: reading left to right, a placeholder (`{`,
a non-empty name of ASCII letters, digits and underscores, `}`) is taken wherever
one starts, and every other character is plain text. This is leftmost-first,
non-overlapping matching, and `pieces` gives the one reading it allows
(`scan_iff`).

`Template.expand` walks the pieces with a map that shrinks as names are used. Its
result has a description that threads no map: the `i`-th placeholder receives the
encoded path text of its name in the original map when no earlier placeholder has
that name (`ParamMap.substitution`), and the map left over holds the entries whose
name no placeholder has (`expand_substitutes_placeholders`).
-/

namespace HomePanel

namespace TemplatePiece

def placeholderName? : TemplatePiece → Option String
  | .placeholder name => some name
  | .char _ => none

end TemplatePiece

namespace Template

/-! ## Matching placeholders -/

/-- `cs` starts with a placeholder: `{`, a non-empty name of name characters, `}`,
then `rest`. -/
def PlaceholderAt (cs name rest : List Char) : Prop :=
  name ≠ [] ∧ (∀ c ∈ name, isNameChar c = true) ∧ cs = '{' :: (name ++ '}' :: rest)

/-- Leftmost-first, non-overlapping placeholder matching. -/
inductive Scan : List Char → List TemplatePiece → Prop
  | nil : Scan [] []
  | placeholder {cs name rest ps} :
      PlaceholderAt cs name rest → Scan rest ps →
      Scan cs (.placeholder (String.ofList name) :: ps)
  | char {c cs ps} :
      (∀ name rest, ¬ PlaceholderAt (c :: cs) name rest) → Scan cs ps →
      Scan (c :: cs) (.char c :: ps)

theorem takeWhile_name {name rest : List Char} (hname : ∀ c ∈ name, isNameChar c = true) :
    (name ++ '}' :: rest).takeWhile isNameChar = name := by
  rw [List.takeWhile_append_of_pos hname, List.takeWhile_cons_of_neg (by decide),
    List.append_nil]

theorem dropWhile_name {name rest : List Char} (hname : ∀ c ∈ name, isNameChar c = true) :
    (name ++ '}' :: rest).dropWhile isNameChar = '}' :: rest := by
  rw [List.dropWhile_append_of_pos hname, List.dropWhile_cons_of_neg (by decide)]

/-- A placeholder starts a text exactly when the text opens with `{`, its longest
run of name characters is not empty, and `}` follows that run. -/
theorem placeholderAt_cons_iff {c : Char} {cs name rest : List Char} :
    PlaceholderAt (c :: cs) name rest ↔
      c = '{' ∧ name = cs.takeWhile isNameChar ∧ name ≠ [] ∧
        cs.dropWhile isNameChar = '}' :: rest := by
  constructor
  · rintro ⟨hne, hname, hcs⟩
    obtain ⟨rfl, rfl⟩ := List.cons_eq_cons.mp hcs
    exact ⟨rfl, (takeWhile_name hname).symm, hne, dropWhile_name hname⟩
  · rintro ⟨rfl, rfl, hne, hdrop⟩
    refine ⟨hne, fun c hc => List.mem_takeWhile_imp hc, ?_⟩
    rw [← hdrop, List.takeWhile_append_dropWhile]

theorem pieces_nil : pieces [] = [] := by
  rw [pieces]

theorem pieces_of_placeholderAt {c : Char} {cs name rest : List Char}
    (h : PlaceholderAt (c :: cs) name rest) :
    pieces (c :: cs) = .placeholder (String.ofList name) :: pieces rest := by
  obtain ⟨rfl, rfl, hne, hdrop⟩ := placeholderAt_cons_iff.mp h
  rw [pieces, if_pos rfl]
  split
  · next after hsplit =>
      rw [hdrop] at hsplit
      obtain ⟨-, rfl⟩ := List.cons_eq_cons.mp hsplit
      dsimp only
      rw [if_neg (by simpa using hne)]
  · next hother =>
      exact absurd hdrop (hother rest)

theorem pieces_of_not_placeholderAt {c : Char} {cs : List Char}
    (h : ∀ name rest, ¬ PlaceholderAt (c :: cs) name rest) :
    pieces (c :: cs) = .char c :: pieces cs := by
  rw [pieces]
  split
  · next hc =>
      split
      · next after hsplit =>
          dsimp only
          split
          · rfl
          · next hne =>
              have hat : PlaceholderAt (c :: cs) (cs.takeWhile isNameChar) after :=
                placeholderAt_cons_iff.mpr ⟨hc, rfl, by simpa using hne, hsplit⟩
              exact absurd hat (h _ _)
      · rfl
  · rfl

theorem length_lt_of_placeholderAt {cs name rest : List Char} (h : PlaceholderAt cs name rest) :
    rest.length < cs.length := by
  rw [h.2.2]
  simp only [List.length_cons, List.length_append]
  omega

/-- `pieces` reads a text by leftmost-first, non-overlapping matching. -/
theorem scan_pieces (cs : List Char) : Scan cs (pieces cs) := by
  match cs with
  | [] =>
      rw [pieces_nil]
      exact .nil
  | c :: cs =>
      by_cases hat : ∃ name rest, PlaceholderAt (c :: cs) name rest
      · obtain ⟨name, rest, hat⟩ := hat
        have _hlt : rest.length < cs.length + 1 := length_lt_of_placeholderAt hat
        rw [pieces_of_placeholderAt hat]
        exact .placeholder hat (scan_pieces rest)
      · have hnone : ∀ name rest, ¬ PlaceholderAt (c :: cs) name rest :=
          fun name rest hat' => hat ⟨name, rest, hat'⟩
        rw [pieces_of_not_placeholderAt hnone]
        exact .char hnone (scan_pieces cs)
termination_by cs.length

theorem eq_pieces_of_scan {cs : List Char} {ps : List TemplatePiece} (h : Scan cs ps) :
    ps = pieces cs := by
  induction h with
  | nil => rw [pieces_nil]
  | @placeholder cs name rest ps hat _ ih =>
      obtain ⟨c, tail, rfl⟩ : ∃ c tail, cs = c :: tail := ⟨'{', _, hat.2.2⟩
      rw [pieces_of_placeholderAt hat, ih]
  | char hnone _ ih =>
      rw [pieces_of_not_placeholderAt hnone, ih]

/-- The readings that leftmost-first matching allows are exactly `pieces`. -/
theorem scan_iff (cs : List Char) (ps : List TemplatePiece) : Scan cs ps ↔ ps = pieces cs :=
  ⟨eq_pieces_of_scan, fun h => h ▸ scan_pieces cs⟩

/-! ## Expansion -/

/-- The characters of the pieces with the `i`-th placeholder replaced by the `i`-th
text (by the empty text past the end of the texts). -/
def fill : List TemplatePiece → List String → List Char
  | [], _ => []
  | .char c :: ps, texts => c :: fill ps texts
  | .placeholder _ :: ps, texts => (texts.headD "").toList ++ fill ps texts.tail

theorem placeholderNames_eq (t : String) :
    placeholderNames t = (pieces t.toList).filterMap TemplatePiece.placeholderName? := by
  unfold placeholderNames
  congr 1

theorem expandPieces_char (c : Char) (ps : List TemplatePiece) (m : ParamMap) :
    expandPieces (.char c :: ps) m = (c :: (expandPieces ps m).1, (expandPieces ps m).2) := rfl

theorem expandPieces_placeholder (name : String) (ps : List TemplatePiece) (m : ParamMap) :
    expandPieces (.placeholder name :: ps) m =
      ((((m.take name).1.map fun v => Url.encodeSegment v.pathText).getD "").toList ++
          (expandPieces ps (m.take name).2).1,
        (expandPieces ps (m.take name).2).2) := rfl

end Template

namespace ParamMap

/-- The text a placeholder named `name` receives when `before` are the names of the
placeholders before it: the encoded path text of the name's value when the name is
not among them and has a value, and the empty text otherwise. -/
def substitution (m : ParamMap) (before : List String) (name : String) : String :=
  if name ∈ before then "" else ((m.get? name).map fun v => Url.encodeSegment v.pathText).getD ""

end ParamMap

namespace Template

/-- Expanding pieces against what is left of `m` after the names `seen` were used. -/
theorem expandPieces_eq_fill (ps : List TemplatePiece) {m m' : ParamMap} {seen : List String}
    (hm' : m'.toList = m.toList.filter (fun e => e.1 ∉ seen)) :
    (expandPieces ps m').1 =
        fill ps ((ps.filterMap TemplatePiece.placeholderName?).mapIdx fun i name =>
          m.substitution (seen ++ (ps.filterMap TemplatePiece.placeholderName?).take i) name) ∧
      (expandPieces ps m').2.toList =
        m.toList.filter (fun e => e.1 ∉ seen ++ ps.filterMap TemplatePiece.placeholderName?) := by
  induction ps generalizing m' seen with
  | nil =>
      refine ⟨rfl, ?_⟩
      rw [List.filterMap_nil, List.append_nil]
      exact hm'
  | cons p ps ih =>
      cases p with
      | char c =>
          obtain ⟨hpath, hleft⟩ := ih hm'
          have hnames : (TemplatePiece.char c :: ps).filterMap TemplatePiece.placeholderName? =
              ps.filterMap TemplatePiece.placeholderName? := rfl
          rw [expandPieces_char, hnames]
          exact ⟨by rw [hpath]; rfl, hleft⟩
      | placeholder name =>
          obtain ⟨hvalue, hrest⟩ := ParamMap.take_of_toList_eq_filter hm' name
          obtain ⟨hpath, hleft⟩ := ih hrest
          have hnames : (TemplatePiece.placeholder name :: ps).filterMap
              TemplatePiece.placeholderName? = name :: ps.filterMap TemplatePiece.placeholderName? :=
            rfl
          have htext : (((m'.take name).1.map fun v => Url.encodeSegment v.pathText).getD "") =
              m.substitution seen name := by
            rw [hvalue, ParamMap.substitution]
            split <;> rfl
          have hlater : ((ps.filterMap TemplatePiece.placeholderName?).mapIdx fun i n =>
                m.substitution (seen ++ (name :: ps.filterMap TemplatePiece.placeholderName?).take
                  (i + 1)) n) =
              (ps.filterMap TemplatePiece.placeholderName?).mapIdx fun i n =>
                m.substitution (seen ++ [name] ++ (ps.filterMap TemplatePiece.placeholderName?).take
                  i) n := by
            congr 1
            funext i n
            rw [List.take_succ_cons, List.append_assoc, List.singleton_append]
          rw [expandPieces_placeholder, hnames, List.mapIdx_cons, hlater]
          refine ⟨?_, ?_⟩
          · rw [hpath, htext, List.take_zero, List.append_nil]
            rfl
          · rw [hleft, List.append_assoc, List.singleton_append]

theorem expand_eq_fill (t : String) (m : ParamMap) :
    (expand t m).1 = String.ofList (fill (pieces t.toList)
        ((placeholderNames t).mapIdx fun i name =>
          m.substitution ((placeholderNames t).take i) name)) ∧
      (expand t m).2.toList = m.toList.filter (fun e => e.1 ∉ placeholderNames t) := by
  have hall : m.toList = m.toList.filter (fun e => e.1 ∉ ([] : List String)) := by
    simp
  obtain ⟨hpath, hleft⟩ := expandPieces_eq_fill (pieces t.toList) hall
  rw [List.nil_append] at hleft
  simp only [List.nil_append] at hpath
  rw [placeholderNames_eq]
  exact ⟨congrArg String.ofList hpath, hleft⟩

/-- Expanding a template: placeholders are matched leftmost-first without overlap;
the `i`-th is replaced by the encoded path text of its name's value when no earlier
placeholder has that name and the name has a value, and by the empty text
otherwise; the parameters left are the entries whose name no placeholder has, and
the query built from them carries exactly their non-null names and texts. -/
theorem expand_substitutes_placeholders (t : String) (m : ParamMap) :
    (∀ ps, Scan t.toList ps ↔ ps = pieces t.toList) ∧
    (expand t m).1 = String.ofList (fill (pieces t.toList)
      ((placeholderNames t).mapIdx fun i name =>
        m.substitution ((placeholderNames t).take i) name)) ∧
    (expand t m).2.toList = m.toList.filter (fun e => e.1 ∉ placeholderNames t) ∧
    Url.readQuery (BuiltUrl.build t m).query =
      some ((m.toList.filter fun e => e.1 ∉ placeholderNames t).filterMap
        fun e => e.2.text?.map fun s => (e.1, s)) := by
  obtain ⟨hpath, hleft⟩ := expand_eq_fill t m
  refine ⟨scan_iff t.toList, hpath, hleft, ?_⟩
  have hquery : (BuiltUrl.build t m).query = (expand t m).2.query := rfl
  rw [hquery, ParamMap.readQuery_query, hleft]

/-! ## Templates without placeholders -/

theorem pieces_of_ne_brace {c : Char} (hc : c ≠ '{') (cs : List Char) :
    pieces (c :: cs) = .char c :: pieces cs := by
  rw [pieces, if_neg hc]

theorem pieces_of_brace_not_mem {cs : List Char} (h : '{' ∉ cs) : pieces cs = cs.map .char := by
  induction cs with
  | nil => exact pieces_nil
  | cons c cs ih =>
      have hc : c ≠ '{' := by
        rintro rfl
        exact h (List.mem_cons_self ..)
      have hrest : '{' ∉ cs := fun hm => h (List.mem_cons_of_mem c hm)
      rw [pieces_of_ne_brace hc, ih hrest, List.map_cons]

theorem expandPieces_chars (cs : List Char) (m : ParamMap) :
    expandPieces (cs.map .char) m = (cs, m) := by
  induction cs with
  | nil => rfl
  | cons c cs ih => rw [List.map_cons, expandPieces_char, ih]

/-- A template without braces expands to itself and leaves every parameter. -/
theorem expand_of_brace_not_mem {t : String} (h : '{' ∉ t.toList) (m : ParamMap) :
    expand t m = (t, m) := by
  simp only [expand, pieces_of_brace_not_mem h, expandPieces_chars, String.ofList_toList]

end Template
end HomePanel
