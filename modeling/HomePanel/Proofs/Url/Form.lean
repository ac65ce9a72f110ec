import HomePanel.Request.Basic
import HomePanel.Proofs.ParamMap
import HomePanel.Proofs.Url.Percent
import Mathlib

/-!
# Queries read back

A query is read back by form parsing (`application/x-www-form-urlencoded`): its
UTF-8 bytes are split at every `&`, empty pieces are dropped, each piece is split
at its first `=`, a `+` stands for a space, `%XX` escapes are decoded by the URL
parser's `percentDecode`, and the bytes must be UTF-8 (`parseForm`).

Form encoding keeps ASCII letters, digits and `* - . _`, writes a space as `+` and
every other byte as a triplet, so no encoded name or value holds `&` or `=`, and
each reads back as itself (`formDecode_formEncode`). Hence `name=value` pairs
joined by `&` read back as the pairs (`parseForm_intercalate`), and the query of a
parameter map is empty exactly when every value is null, and otherwise `?` and a
form that reads back as the names and texts of the non-null entries, in the order
of the names (`query_reads_back`). UTF-8 keeps the order of code points
(`utf8_lt_of_lt`), so that order is the byte order of the names.
-/

namespace HomePanel
namespace Url

/-! ## Reading a form -/

def plusAsSpace (b : UInt8) : UInt8 := if b = 0x2B then 0x20 else b

/-- A form name or value read back from its bytes: `+` is a space, `%XX` gives its
byte, and the bytes must be UTF-8. -/
def formDecode (bytes : List UInt8) : Option String :=
  String.fromUTF8? (percentDecode (bytes.map plusAsSpace)).toByteArray

/-- A piece of a form split at its first `=`; without one it is a name with the
empty value. -/
def formPair (piece : List UInt8) : Option (String × String) := do
  let name ← formDecode (piece.takeWhile (· != 0x3D))
  let value ← formDecode ((piece.dropWhile (· != 0x3D)).drop 1)
  return (name, value)

/-- The pairs of a form, read from its UTF-8 bytes split at every `&`; empty pieces
are skipped. -/
def parseForm (form : String) : Option (List (String × String)) :=
  (((form.toList.flatMap String.utf8EncodeChar).splitOn 0x26).filter
    (fun piece => !piece.isEmpty)).mapM formPair

/-- The pairs a query carries: none for the empty query, the form after `?`. -/
def readQuery (query : String) : Option (List (String × String)) :=
  match query.toList with
  | [] => some []
  | '?' :: form => parseForm (String.ofList form)
  | _ => none

/-! ## Bytes of text -/

theorem fromUTF8?_flatMap_utf8EncodeChar (cs : List Char) :
    String.fromUTF8? (cs.flatMap String.utf8EncodeChar).toByteArray = some (String.ofList cs) := by
  have hvalid : (cs.flatMap String.utf8EncodeChar).toByteArray.IsValidUTF8 := ⟨cs, rfl⟩
  rw [String.fromUTF8?, dif_pos hvalid]
  congr 1

theorem flatMap_intercalate_singleton {α β : Type} (f : α → List β) (a : α)
    (ls : List (List α)) :
    ([a].intercalate ls).flatMap f = (f a).intercalate (ls.map (List.flatMap f)) := by
  induction ls with
  | nil => rfl
  | cons l ls ih =>
      cases ls with
      | nil => simp
      | cons l' ls' =>
          simp only [List.intercalate_cons_cons, List.flatMap_append, ih, List.map_cons,
            List.flatMap_singleton]

theorem mapM_formPair {pieces : List (List UInt8)} {pairs : List (String × String)}
    (h : List.Forall₂ (fun piece pair => formPair piece = some pair) pieces pairs) :
    pieces.mapM formPair = some pairs := by
  induction h with
  | nil => rfl
  | cons hhead _ ih => simp [hhead, ih]

/-! ## Byte order of text -/

theorem lex_append_of_length_eq {bs bs' : List UInt8} (h : List.Lex (· < ·) bs bs')
    (hlen : bs.length = bs'.length) (rest rest' : List UInt8) :
    List.Lex (· < ·) (bs ++ rest) (bs' ++ rest') := by
  induction h with
  | nil => simp at hlen
  | rel hlt => exact .rel hlt
  | cons _ ih => exact .cons (ih (Nat.succ.inj hlen))

theorem lex_of_lead_lt {a b : Nat} (hab : a < b) (hb : b < 256) (bs bs' : List UInt8) :
    List.Lex (· < ·) (UInt8.ofNat a :: bs) (UInt8.ofNat b :: bs') := by
  apply List.Lex.rel
  rw [UInt8.lt_iff_toNat_lt, UInt8.toNat_ofNat', UInt8.toNat_ofNat']
  omega

theorem toNat_val_lt_of_char (c : Char) : c.val.toNat < 1114112 := by
  have hvalid := c.valid
  simp only [UInt32.isValidChar, Nat.isValidChar] at hvalid
  omega

/-- UTF-8 keeps the order of code points: the encodings of two characters differ at a
byte where the smaller character's is smaller, whatever follows them. -/
theorem utf8EncodeChar_lex {c d : Char} (h : c < d) (rest rest' : List UInt8) :
    List.Lex (· < ·) (String.utf8EncodeChar c ++ rest) (String.utf8EncodeChar d ++ rest') := by
  have hlt : c.val.toNat < d.val.toNat := UInt32.lt_iff_toNat_lt.mp (Char.lt_def.mp h)
  have hd := toNat_val_lt_of_char d
  unfold String.utf8EncodeChar
  dsimp only
  -- Both code points fall in one of four size classes. A larger code point is never in a
  -- smaller class, a larger class starts with a larger lead byte, and within one class the
  -- bytes are the base-64 digits of the code point behind fixed marks.
  split_ifs
  all_goals first
    | omega
    | exact lex_of_lead_lt (by omega) (by omega) _ _
    | refine lex_append_of_length_eq ?_ (by simp only [List.length_cons]) _ _
      simp only [List.cons_lex_cons_iff, UInt8.lt_iff_toNat_lt, ← UInt8.toNat_inj,
        UInt8.toNat_ofNat', List.not_lex_nil, and_false, or_false]
      simp (disch := omega) only [Nat.mod_eq_of_lt]
      omega

theorem flatMap_utf8EncodeChar_lt {cs ds : List Char} (h : cs < ds) :
    cs.flatMap String.utf8EncodeChar < ds.flatMap String.utf8EncodeChar := by
  induction h with
  | nil =>
      rw [List.flatMap_nil, List.flatMap_cons]
      cases hd : String.utf8EncodeChar _ with
      | nil => exact absurd hd String.utf8EncodeChar_ne_nil
      | cons b bs => exact .nil
  | cons _ ih =>
      rw [List.flatMap_cons, List.flatMap_cons]
      exact List.Lex.append_left _ ih _
  | rel hlt =>
      rw [List.flatMap_cons, List.flatMap_cons]
      exact utf8EncodeChar_lex hlt _ _

/-- Texts in increasing order have UTF-8 bytes in increasing order. -/
theorem utf8_lt_of_lt {s t : String} (h : s < t) :
    s.toList.flatMap String.utf8EncodeChar < t.toList.flatMap String.utf8EncodeChar :=
  flatMap_utf8EncodeChar_lt (String.lt_iff_toList_lt.mp h)

/-! ## Encoded text -/

theorem lt_of_isAsciiAlnum {c : Char} (h : isAsciiAlnum c = true) : c.toNat < 128 := by
  simp only [isAsciiAlnum, Char.isAlphanum, Char.isAlpha, Char.isUpper, Char.isLower,
    Char.isDigit, Bool.or_eq_true, Bool.and_eq_true, decide_eq_true_eq, UInt32.le_iff_toNat_le,
    ge_iff_le] at h
  simp only [Char.reduceVal, UInt32.reduceToNat, Char.toNat_val] at h
  omega

theorem lt_of_formKeeps {c : Char} (h : formKeeps c = true) : c.toNat < 128 := by
  simp only [formKeeps, Bool.or_eq_true] at h
  rcases h with h | h
  · exact lt_of_isAsciiAlnum h
  · simp only [List.contains_cons, List.contains_nil, Bool.or_false, Bool.or_eq_true,
      beq_iff_eq] at h
    rcases h with rfl | rfl | rfl | rfl <;> decide

theorem formKeeps_ne {c : Char} (h : formKeeps c = true) :
    c ≠ '+' ∧ c ≠ '%' ∧ c ≠ '&' ∧ c ≠ '=' := by
  refine ⟨?_, ?_, ?_, ?_⟩ <;>
    (intro hc; subst hc; revert h; decide)

theorem mem_formEncodeChar {c x : Char} (h : x ∈ formEncodeChar c) :
    formKeeps x = true ∨ x = '+' ∨ x = '%' ∨ x ∈ upperHexDigits := by
  unfold formEncodeChar at h
  split at h
  · next hkeep =>
      rw [List.mem_singleton] at h
      exact .inl (h ▸ hkeep)
  · split at h
    · rw [List.mem_singleton] at h
      exact .inr (.inl h)
    · rcases mem_percentChar h with h | h
      · exact .inr (.inr (.inl h))
      · exact .inr (.inr (.inr h))

theorem lt_of_mem_formEncodeChar {c x : Char} (h : x ∈ formEncodeChar c) : x.toNat < 128 := by
  rcases mem_formEncodeChar h with h | h | h | h
  · exact lt_of_formKeeps h
  · rw [h]
    decide
  · rw [h]
    decide
  · exact lt_of_mem_upperHexDigits h

theorem ne_separator_of_mem_formEncodeChar {c x : Char} (h : x ∈ formEncodeChar c) :
    x ≠ '&' ∧ x ≠ '=' := by
  rcases mem_formEncodeChar h with h | h | h | h
  · exact ⟨(formKeeps_ne h).2.2.1, (formKeeps_ne h).2.2.2⟩
  · rw [h]
    decide
  · rw [h]
    decide
  · constructor <;>
      (intro hx; rw [hx] at h; revert h; decide)

theorem toList_formEncode (s : String) :
    (formEncode s).toList = s.toList.flatMap formEncodeChar := by
  simp [formEncode]

theorem lt_of_mem_formEncode {s : String} {x : Char} (h : x ∈ (formEncode s).toList) :
    x.toNat < 128 := by
  rw [toList_formEncode] at h
  obtain ⟨c, _, hx⟩ := List.mem_flatMap.mp h
  exact lt_of_mem_formEncodeChar hx

theorem ne_separator_of_mem_formEncode {s : String} {x : Char} (h : x ∈ (formEncode s).toList) :
    x ≠ '&' ∧ x ≠ '=' := by
  rw [toList_formEncode] at h
  obtain ⟨c, _, hx⟩ := List.mem_flatMap.mp h
  exact ne_separator_of_mem_formEncodeChar hx

theorem utf8_formEncode (s : String) :
    (formEncode s).toList.flatMap String.utf8EncodeChar = (formEncode s).toList.map asciiByte :=
  flatMap_utf8EncodeChar_of_lt (fun _ hx => lt_of_mem_formEncode hx)

theorem ne_separator_of_mem_formEncode_bytes {s : String} {b : UInt8}
    (hb : b ∈ (formEncode s).toList.map asciiByte) : b ≠ 0x26 ∧ b ≠ 0x3D := by
  obtain ⟨x, hx, rfl⟩ := List.mem_map.mp hb
  have hascii := lt_of_mem_formEncode hx
  have hamp : asciiByte '&' = 0x26 := rfl
  have hequals : asciiByte '=' = 0x3D := rfl
  rw [← hamp, ← hequals, ne_eq, ne_eq, asciiByte_eq_iff hascii (by decide),
    asciiByte_eq_iff hascii (by decide)]
  exact ne_separator_of_mem_formEncode hx

/-! ## Names and values read back -/

theorem map_plusAsSpace_of_not_plus {cs : List Char}
    (h : ∀ x ∈ cs, x ≠ '+' ∧ x.toNat < 128) :
    (cs.map asciiByte).map plusAsSpace = cs.map asciiByte := by
  rw [List.map_map]
  apply List.map_congr_left
  intro x hx
  have hne : asciiByte x ≠ 0x2B := by
    intro hplus
    have hplusByte : asciiByte '+' = 0x2B := rfl
    rw [← hplusByte, asciiByte_eq_iff (h x hx).2 (by decide)] at hplus
    exact (h x hx).1 hplus
  simp [plusAsSpace, hne]

theorem formDecodeBytes_formEncodeChar (c : Char) (rest : List UInt8) :
    percentDecode (((formEncodeChar c).map asciiByte).map plusAsSpace ++ rest) =
      String.utf8EncodeChar c ++ percentDecode rest := by
  unfold formEncodeChar
  split
  · next hkeep =>
      have hascii := lt_of_formKeeps hkeep
      obtain ⟨hplus, hpercent, -, -⟩ := formKeeps_ne hkeep
      have hbyte : asciiByte c ≠ 37 := by
        intro h37
        have hpercentByte : asciiByte '%' = 37 := rfl
        rw [← hpercentByte, asciiByte_eq_iff hascii (by decide)] at h37
        exact hpercent h37
      rw [map_plusAsSpace_of_not_plus (by simpa using ⟨hplus, hascii⟩), List.map_singleton,
        List.singleton_append, percentDecode_cons_of_ne hbyte, utf8EncodeChar_of_lt hascii,
        List.singleton_append]
  · split
    · next hspace =>
        rw [hspace]
        rfl
    · have hnotPlus : ∀ x ∈ percentChar c, x ≠ '+' ∧ x.toNat < 128 := by
        intro x hx
        refine ⟨?_, lt_of_mem_percentChar hx⟩
        rcases mem_percentChar hx with h | h
        · rw [h]
          decide
        · intro hx'
          rw [hx'] at h
          revert h
          decide
      rw [map_plusAsSpace_of_not_plus hnotPlus, percentDecode_percentChar]

theorem formDecodeBytes_flatMap_formEncodeChar (cs : List Char) (rest : List UInt8) :
    percentDecode (((cs.flatMap formEncodeChar).map asciiByte).map plusAsSpace ++ rest) =
      cs.flatMap String.utf8EncodeChar ++ percentDecode rest := by
  induction cs with
  | nil => rfl
  | cons c cs ih =>
      rw [List.flatMap_cons, List.map_append, List.map_append, List.append_assoc,
        formDecodeBytes_formEncodeChar, ih, List.flatMap_cons, List.append_assoc]

/-- A form-encoded text reads back as itself. -/
theorem formDecode_formEncode (s : String) :
    formDecode ((formEncode s).toList.map asciiByte) = some s := by
  have hbytes := formDecodeBytes_flatMap_formEncodeChar s.toList []
  rw [List.append_nil, percentDecode.eq_3, List.append_nil] at hbytes
  rw [formDecode, toList_formEncode, hbytes, fromUTF8?_flatMap_utf8EncodeChar,
    String.ofList_toList]

/-! ## Forms read back -/

/-- The bytes of an encoded pair `name=value`. -/
theorem utf8_pairText (p : String × String) :
    (formEncode p.1 ++ "=" ++ formEncode p.2).toList.flatMap String.utf8EncodeChar =
      (formEncode p.1).toList.map asciiByte ++ 0x3D :: (formEncode p.2).toList.map asciiByte := by
  have hequals : "=".toList.flatMap String.utf8EncodeChar = [0x3D] := by decide
  simp only [String.toList_append, List.flatMap_append, utf8_formEncode, hequals]
  simp

theorem formPair_pairText (p : String × String) :
    formPair ((formEncode p.1 ++ "=" ++ formEncode p.2).toList.flatMap String.utf8EncodeChar) =
      some p := by
  have hname : ∀ b ∈ (formEncode p.1).toList.map asciiByte, (b != 0x3D) = true := by
    intro b hb
    rw [bne_iff_ne]
    exact (ne_separator_of_mem_formEncode_bytes hb).2
  rw [utf8_pairText, formPair, List.takeWhile_append_of_pos hname,
    List.dropWhile_append_of_pos hname, List.takeWhile_cons_of_neg (by decide),
    List.dropWhile_cons_of_neg (by decide), List.append_nil, List.drop_succ_cons, List.drop_zero]
  simp [formDecode_formEncode]

theorem utf8_intercalate_amp (texts : List String) :
    ("&".intercalate texts).toList.flatMap String.utf8EncodeChar =
      [0x26].intercalate ((texts.map String.toList).map (List.flatMap String.utf8EncodeChar)) := by
  have hamp : "&".toList = ['&'] := by decide
  have hampByte : String.utf8EncodeChar '&' = [0x26] := by decide
  rw [String.toList_intercalate, hamp, flatMap_intercalate_singleton, hampByte]

theorem mem_pairBytes {pairs : List (String × String)} {piece : List UInt8}
    (hmem : piece ∈ ((pairs.map fun p => formEncode p.1 ++ "=" ++ formEncode p.2).map
      String.toList).map (List.flatMap String.utf8EncodeChar)) :
    ∃ p ∈ pairs, piece = (formEncode p.1).toList.map asciiByte ++
      0x3D :: (formEncode p.2).toList.map asciiByte := by
  simp only [List.map_map, List.mem_map, Function.comp_apply] at hmem
  obtain ⟨p, hp, hpiece⟩ := hmem
  exact ⟨p, hp, hpiece ▸ utf8_pairText p⟩

/-- Pairs encoded as `name=value` and joined by `&` read back as the pairs. -/
theorem parseForm_intercalate (pairs : List (String × String)) (hpairs : pairs ≠ []) :
    parseForm ("&".intercalate (pairs.map fun p => formEncode p.1 ++ "=" ++ formEncode p.2)) =
      some pairs := by
  have hnoAmp : ∀ piece ∈ ((pairs.map fun p => formEncode p.1 ++ "=" ++ formEncode p.2).map
      String.toList).map (List.flatMap String.utf8EncodeChar), (0x26 : UInt8) ∉ piece := by
    intro piece hmem hamp
    obtain ⟨p, _, hpiece⟩ := mem_pairBytes hmem
    rw [hpiece] at hamp
    rcases List.mem_append.mp hamp with h | h
    · exact (ne_separator_of_mem_formEncode_bytes h).1 rfl
    · rcases List.mem_cons.mp h with h | h
      · exact absurd h (by decide)
      · exact (ne_separator_of_mem_formEncode_bytes h).1 rfl
  have hnonempty : ∀ piece ∈ ((pairs.map fun p => formEncode p.1 ++ "=" ++ formEncode p.2).map
      String.toList).map (List.flatMap String.utf8EncodeChar), (!piece.isEmpty) = true := by
    intro piece hmem
    obtain ⟨p, _, hpiece⟩ := mem_pairBytes hmem
    rw [hpiece, Bool.not_eq_true', List.isEmpty_eq_false_iff]
    exact List.append_ne_nil_of_right_ne_nil _ (List.cons_ne_nil _ _)
  rw [parseForm, utf8_intercalate_amp, List.splitOn_intercalate _ hnoAmp (by simpa using hpairs),
    List.filter_eq_self.mpr hnonempty, List.map_map, List.map_map]
  apply mapM_formPair
  rw [List.forall₂_map_left_iff]
  apply List.forall₂_same.mpr
  intro p _
  rw [Function.comp_apply, Function.comp_apply]
  exact formPair_pairText p

end Url

/-! ## Queries of parameter maps -/

namespace ParamMap

theorem text?_eq_none_iff (v : ParamValue) : v.text? = none ↔ v = .null := by
  cases v <;> simp [ParamValue.text?]

theorem queryPairs_eq (m : ParamMap) :
    m.queryPairs = (m.toList.filterMap fun e => e.2.text?.map fun s => (e.1, s)).map
      fun p => Url.formEncode p.1 ++ "=" ++ Url.formEncode p.2 := by
  rw [queryPairs, List.map_filterMap]
  congr 1
  funext e
  rw [Option.map_map]
  rfl

theorem queryPairs_eq_nil_iff_entries (m : ParamMap) :
    m.queryPairs = [] ↔ (m.toList.filterMap fun e => e.2.text?.map fun s => (e.1, s)) = [] := by
  rw [queryPairs_eq, List.map_eq_nil_iff]

theorem queryPairs_eq_nil_iff (m : ParamMap) :
    m.queryPairs = [] ↔ ∀ e ∈ m.toList, e.2 = .null := by
  rw [queryPairs, List.filterMap_eq_nil_iff]
  apply forall₂_congr
  intro e _
  rw [Option.map_eq_none_iff, text?_eq_none_iff]

theorem query_of_queryPairs_eq_nil {m : ParamMap} (h : m.queryPairs = []) : m.query = "" := by
  rw [query, h]

theorem query_of_queryPairs_ne_nil {m : ParamMap} (h : m.queryPairs ≠ []) :
    m.query = "?" ++ "&".intercalate m.queryPairs := by
  unfold query
  split
  · next hnil => exact absurd hnil h
  · rfl

theorem query_eq_empty_iff (m : ParamMap) : m.query = "" ↔ ∀ e ∈ m.toList, e.2 = .null := by
  rw [← queryPairs_eq_nil_iff]
  constructor
  · intro hquery
    by_contra hpairs
    rw [query_of_queryPairs_ne_nil hpairs] at hquery
    have hlength := congrArg String.length hquery
    simp at hlength
  · exact query_of_queryPairs_eq_nil

/-- The query of a parameter map reads back as the names and texts of its non-null
entries, in order. -/
theorem readQuery_query (m : ParamMap) :
    Url.readQuery m.query = some (m.toList.filterMap fun e => e.2.text?.map fun s => (e.1, s)) := by
  by_cases hpairs : m.queryPairs = []
  · rw [query_of_queryPairs_eq_nil hpairs, (queryPairs_eq_nil_iff_entries m).mp hpairs]
    rfl
  · have hentries := mt (queryPairs_eq_nil_iff_entries m).mpr hpairs
    rw [query_of_queryPairs_ne_nil hpairs, Url.readQuery, String.toList_append]
    have hmark : "?".toList = ['?'] := by decide
    rw [hmark, List.singleton_append]
    simp only [String.ofList_toList]
    rw [queryPairs_eq]
    exact Url.parseForm_intercalate _ hentries

theorem names_filterMap_text?_sorted (m : ParamMap) :
    ((m.toList.filterMap fun e => e.2.text?.map fun s => (e.1, s)).map Prod.fst).Pairwise
      (· < ·) := by
  rw [List.pairwise_map]
  apply m.toList_sorted.filterMap
  intro a a' hlt b hb b' hb'
  obtain ⟨s, _, rfl⟩ := Option.map_eq_some_iff.mp hb
  obtain ⟨s', _, rfl⟩ := Option.map_eq_some_iff.mp hb'
  exact hlt

/-- A query is empty exactly when every value is null; otherwise it is `?` and a form
that reads back as the names and texts of the non-null entries, in increasing byte order
of the names. -/
theorem query_reads_back (m : ParamMap) :
    (m.query = "" ↔ ∀ e ∈ m.toList, e.2 = .null) ∧
    (m.query ≠ "" → ∃ form, m.query = "?" ++ form ∧
      Url.parseForm form = some (m.toList.filterMap fun e => e.2.text?.map fun s => (e.1, s))) ∧
    ((m.toList.filterMap fun e => e.2.text?.map fun s => (e.1, s)).map fun p =>
      p.1.toList.flatMap String.utf8EncodeChar).Pairwise (· < ·) := by
  have hbytes := (names_filterMap_text?_sorted m).map
    (fun name => name.toList.flatMap String.utf8EncodeChar) fun _ _ hlt => Url.utf8_lt_of_lt hlt
  rw [List.map_map] at hbytes
  refine ⟨query_eq_empty_iff m, ?_, hbytes⟩
  intro hquery
  have hpairs : m.queryPairs ≠ [] := fun hnil => hquery (query_of_queryPairs_eq_nil hnil)
  have hentries := mt (queryPairs_eq_nil_iff_entries m).mpr hpairs
  refine ⟨"&".intercalate m.queryPairs, query_of_queryPairs_ne_nil hpairs, ?_⟩
  rw [queryPairs_eq]
  exact Url.parseForm_intercalate _ hentries

end ParamMap
end HomePanel
