import HomePanel.Css.Syntax
import HomePanel.Page.Selector
import Mathlib

/-!
# What an escaped selector value stands for

`cssEscape` puts a backslash before every character that is not an ASCII letter or digit,
`_` or `-`. Read back as the contents of a double-quoted CSS string, such a backslash gives
the character back: no escaped character is a hex digit, so none starts a numeric escape.
Two rules of CSS come first, though. Preprocessing turns a carriage return and a form feed
into a line feed and NUL into U+FFFD before anything is read, and a backslash before a line
feed is a line continuation, which stands for nothing.

So an escaped value stands for the value preprocessed, with its line feeds removed
(`quotedValue?_cssEscape`), and for exactly the value when it holds no line feed, carriage
return, form feed or NUL. A data selector for a key of plain characters reads as the test of
the key's data attribute for equality with what the escaped value stands for
(`readAttributeSelector?_dataSelector`).
-/

namespace HomePanel

namespace Css

open Selector

/-! ## Plain characters -/

theorem ne_of_isPlain {c d : Char} (hc : isPlain c = true) (hd : isPlain d = false) : c ≠ d := by
  rintro rfl
  simp [hc] at hd

theorem isPlain_of_isHexDigit {c : Char} (h : isHexDigit c = true) : isPlain c = true := by
  simp only [isHexDigit, Bool.or_eq_true, Bool.and_eq_true, decide_eq_true_eq] at h
  simp only [isPlain, Char.isAlphanum, Char.isAlpha, Char.isUpper, Char.isLower, Char.isDigit,
    Bool.or_eq_true, Bool.and_eq_true, decide_eq_true_eq, UInt32.le_iff_toNat_le, ge_iff_le,
    Char.reduceVal, UInt32.reduceToNat, Char.toNat_val] at h ⊢
  omega

theorem isHexDigit_eq_false {c : Char} (h : isPlain c = false) : isHexDigit c = false := by
  cases hx : isHexDigit c with
  | false => rfl
  | true => simp [isPlain_of_isHexDigit hx] at h

theorem preprocessChar_of_isPlain {c : Char} (h : isPlain c = true) : preprocessChar c = c := by
  have hcr : c ≠ '\r' := ne_of_isPlain h (by decide)
  have hff : c ≠ '\x0c' := ne_of_isPlain h (by decide)
  have hnul : c ≠ '\x00' := ne_of_isPlain h (by decide)
  simp [preprocessChar, hcr, hff, hnul]

/-- Preprocessing keeps a character plain or not plain. -/
theorem isPlain_preprocessChar (c : Char) : isPlain (preprocessChar c) = isPlain c := by
  unfold preprocessChar
  split
  · next h => rcases h with rfl | rfl <;> decide
  · split
    · next h => subst h; decide
    · rfl

/-! ## Preprocessing -/

theorem preprocess_cons {c : Char} {rest : List Char} (h : c = '\r' → rest.head? ≠ some '\n') :
    preprocess (c :: rest) = preprocessChar c :: preprocess rest :=
  preprocess.eq_3 c rest fun _ hc hrest => h hc (by simp [hrest])

/-- Text that preprocessing leaves as it is stays in front of what follows. -/
theorem preprocess_append_of_fixed {l : List Char} (hl : ∀ c ∈ l, preprocessChar c = c)
    (t : List Char) : preprocess (l ++ t) = l ++ preprocess t := by
  induction l with
  | nil => rfl
  | cons c l ih =>
    have hc : preprocessChar c = c := hl c (List.mem_cons_self ..)
    have hcr : c ≠ '\r' := by
      rintro rfl
      exact absurd hc (by decide)
    rw [List.cons_append, preprocess_cons (fun h => absurd h hcr), hc,
      ih fun d hd => hl d (List.mem_cons_of_mem c hd), List.cons_append]

/-- Dropping line feeds after preprocessing is dropping them after preprocessing each
character alone: a CR LF pair gives one line feed or two, and none is kept. -/
theorem filter_preprocess (l : List Char) :
    (preprocess l).filter (· != '\n') = (l.map preprocessChar).filter (· != '\n') := by
  fun_induction preprocess l with
  | case1 => rfl
  | case2 rest ih =>
    have hcr : preprocessChar '\r' = '\n' := by decide
    have hlf : preprocessChar '\n' = '\n' := by decide
    simp [hcr, hlf, ih]
  | case3 c rest _ ih => simp only [List.map_cons, List.filter_cons, ih]

/-- An escaped text never starts with a line feed that was not already coming after it. -/
theorem head?_escaped_ne (l : List Char) {t : List Char} (ht : t.head? ≠ some '\n') :
    (l.flatMap escapeChar ++ t).head? ≠ some '\n' := by
  cases l with
  | nil => simpa using ht
  | cons c l =>
    cases h : isPlain c with
    | true =>
      have hlf : c ≠ '\n' := ne_of_isPlain h (by decide)
      simp [escapeChar, h, hlf]
    | false => simp [escapeChar, h]

/-- Preprocessing an escaped text preprocesses each escaped character: a carriage return
that was escaped is followed by a backslash or a plain character, never by a line feed. -/
theorem preprocess_escaped (l : List Char) {t : List Char} (ht : t.head? ≠ some '\n') :
    preprocess (l.flatMap escapeChar ++ t) =
      (l.map preprocessChar).flatMap escapeChar ++ preprocess t := by
  induction l with
  | nil => rfl
  | cons c l ih =>
    have hnext := head?_escaped_ne l ht
    cases h : isPlain c with
    | true =>
      have hcr : c ≠ '\r' := ne_of_isPlain h (by decide)
      simp only [List.flatMap_cons, List.map_cons, escapeChar, h, if_true, List.cons_append,
        List.nil_append, preprocess_cons (fun h => absurd h hcr), preprocessChar_of_isPlain h, ih]
    | false =>
      have hslash : preprocess ('\\' :: c :: (l.flatMap escapeChar ++ t)) =
          '\\' :: preprocess (c :: (l.flatMap escapeChar ++ t)) := by
        rw [preprocess_cons (fun h => absurd h (by decide)),
          show preprocessChar '\\' = '\\' by decide]
      simp only [List.flatMap_cons, List.map_cons, escapeChar, isPlain_preprocessChar, h,
        Bool.false_eq_true, if_false, List.cons_append, List.nil_append, hslash,
        preprocess_cons (fun _ => hnext), ih]

/-! ## Strings -/

section Strings

variable (ending : Char) (value : List Char)

theorem consumeString_ending (rest : List Char) :
    consumeString ending value (ending :: rest) = (.closed value, rest) := by
  rw [consumeString.eq_def]
  simp

theorem consumeString_char {c : Char} (rest : List Char) (he : c ≠ ending) (hlf : c ≠ '\n')
    (hbs : c ≠ '\\') :
    consumeString ending value (c :: rest) = consumeString ending (value ++ [c]) rest := by
  rw [consumeString.eq_def]
  simp [he, hlf, hbs]

theorem consumeString_continuation (rest : List Char) (he : ending ≠ '\\') :
    consumeString ending value ('\\' :: '\n' :: rest) = consumeString ending value rest := by
  rw [consumeString.eq_def]
  simp [Ne.symm he]

theorem consumeString_escape {next : Char} (rest : List Char) (he : ending ≠ '\\')
    (hlf : next ≠ '\n') :
    consumeString ending value ('\\' :: next :: rest) =
      consumeString ending (value ++ [(consumeEscape (next :: rest)).1])
        (consumeEscape (next :: rest)).2 := by
  rw [consumeString.eq_def]
  simp [Ne.symm he, hlf]

end Strings

theorem consumeEscape_of_not_hex {c : Char} (rest : List Char) (h : isHexDigit c = false) :
    consumeEscape (c :: rest) = (c, rest) := by
  simp [consumeEscape, h]

/-- Reading an escaped text up to the closing quote gives back every character but the line
feeds, which stood after a backslash. -/
theorem consumeString_escaped (l : List Char) (value rest : List Char) :
    consumeString '"' value (l.flatMap escapeChar ++ '"' :: rest) =
      (.closed (value ++ l.filter (· != '\n')), rest) := by
  induction l generalizing value with
  | nil => simpa using consumeString_ending '"' value rest
  | cons c l ih =>
    cases h : isPlain c with
    | true =>
      have hq : c ≠ '"' := ne_of_isPlain h (by decide)
      have hlf : c ≠ '\n' := ne_of_isPlain h (by decide)
      have hbs : c ≠ '\\' := ne_of_isPlain h (by decide)
      simp only [List.flatMap_cons, escapeChar, h, if_true, List.cons_append, List.nil_append]
      rw [consumeString_char _ _ _ hq hlf hbs, ih]
      simp [hlf]
    | false =>
      simp only [List.flatMap_cons, escapeChar, h, Bool.false_eq_true, if_false,
        List.cons_append, List.nil_append]
      by_cases hlf : c = '\n'
      · -- an escaped line feed is a line continuation
        subst hlf
        rw [consumeString_continuation _ _ _ (by decide), ih]
        simp
      · rw [consumeString_escape _ _ _ (by decide) hlf,
          consumeEscape_of_not_hex _ (isHexDigit_eq_false h), ih]
        simp [hlf]

theorem readString?_escaped (l rest : List Char) :
    readString? '"' (l.flatMap escapeChar ++ '"' :: rest) = some (l.filter (· != '\n'), rest) := by
  rw [readString?, consumeString_escaped, List.nil_append]

theorem toList_cssEscape (v : String) : (cssEscape v).toList = v.toList.flatMap escapeChar :=
  String.toList_ofList

/-- An escaped value stands for the value preprocessed, with its line feeds removed. -/
theorem quotedValue?_cssEscape (v : String) :
    quotedValue? (cssEscape v) =
      some (String.ofList ((preprocess v.toList).filter (· != '\n'))) := by
  have hread : preprocess ((cssEscape v).toList ++ ['"']) =
      (v.toList.map preprocessChar).flatMap escapeChar ++ ['"'] := by
    rw [toList_cssEscape, preprocess_escaped _ (by simp)]
    rfl
  rw [quotedValue?, hread, readString?_escaped, filter_preprocess]

/-- A character that preprocessing keeps and that is not a line feed is none of the four
that CSS reads otherwise. -/
theorem preprocessChar_eq_self_and_ne_iff (c : Char) :
    (preprocessChar c = c ∧ c ≠ '\n') ↔ c ≠ '\n' ∧ c ≠ '\r' ∧ c ≠ '\x0c' ∧ c ≠ '\x00' := by
  unfold preprocessChar
  by_cases hcr : c = '\r'
  · subst hcr; decide
  by_cases hff : c = '\x0c'
  · subst hff; decide
  by_cases hnul : c = '\x00'
  · subst hnul; decide
  simp [hcr, hff, hnul]

/-- An escaped value stands for exactly the value when the value holds no line feed, carriage
return, form feed or NUL. -/
theorem quotedValue?_cssEscape_eq_self_iff (v : String) :
    quotedValue? (cssEscape v) = some v ↔
      ∀ c ∈ v.toList, c ≠ '\n' ∧ c ≠ '\r' ∧ c ≠ '\x0c' ∧ c ≠ '\x00' := by
  rw [quotedValue?_cssEscape, filter_preprocess, Option.some_inj]
  constructor
  · intro h
    have hl : (v.toList.map preprocessChar).filter (· != '\n') = v.toList := by
      simpa using congrArg String.toList h
    have hall : ∀ c ∈ v.toList.map preprocessChar, (c != '\n') = true := by
      rw [← List.length_filter_eq_length_iff, hl, List.length_map]
    have hmap : v.toList.map preprocessChar = v.toList := by
      rwa [List.filter_eq_self.mpr hall] at hl
    have hfix : ∀ c ∈ v.toList, preprocessChar c = c := by
      simpa using List.map_eq_map_iff.mp (hmap.trans (List.map_id _).symm)
    intro c hc
    refine (preprocessChar_eq_self_and_ne_iff c).mp ⟨hfix c hc, ?_⟩
    simpa [hfix c hc] using hall (preprocessChar c) (List.mem_map_of_mem hc)
  · intro h
    have hkeep : ∀ c ∈ v.toList, preprocessChar c = c ∧ c ≠ '\n' :=
      fun c hc => (preprocessChar_eq_self_and_ne_iff c).mpr (h c hc)
    have hmap : v.toList.map preprocessChar = v.toList :=
      (List.map_congr_left fun c hc => (hkeep c hc).1).trans (List.map_id _)
    rw [hmap, List.filter_eq_self.mpr fun c hc => by simpa using (hkeep c hc).2,
      String.ofList_toList]

/-! ## Identifiers -/

theorem lt_of_isPlain {c : Char} (h : isPlain c = true) : c.toNat < 128 := by
  simp only [isPlain, Char.isAlphanum, Char.isAlpha, Char.isUpper, Char.isLower, Char.isDigit,
    Bool.or_eq_true, Bool.and_eq_true, decide_eq_true_eq, UInt32.le_iff_toNat_le, ge_iff_le,
    Char.reduceVal, UInt32.reduceToNat, Char.toNat_val, beq_iff_eq] at h
  rcases h with (h | rfl) | rfl
  · omega
  · decide
  · decide

/-- A plain character of a key becomes code points that may continue an identifier. -/
theorem attributeChars_isIdentChar_ascii :
    ∀ n : Fin 128, isPlain (Char.ofNat n) = true →
      (if (Char.ofNat n).isUpper then ['-', (Char.ofNat n).toLower] else [Char.ofNat n]).all
        isIdentChar = true := by
  decide

/-- The attribute of a key made of plain characters is an identifier's code points. -/
theorem isIdentChar_of_mem_datasetAttribute {key : String}
    (hkey : ∀ c ∈ key.toList, isPlain c = true) :
    ∀ d ∈ (datasetAttribute key).toList, isIdentChar d = true := by
  intro d hd
  simp only [datasetAttribute, String.toList_append, String.toList_ofList, List.mem_append,
    List.mem_flatMap] at hd
  rcases hd with hd | ⟨c, hc, hd⟩
  · have hdata : ("data-" : String).toList = ['d', 'a', 't', 'a', '-'] := rfl
    rw [hdata] at hd
    simp only [List.mem_cons, List.not_mem_nil, or_false] at hd
    rcases hd with rfl | rfl | rfl | rfl | rfl <;> decide
  · have hascii := attributeChars_isIdentChar_ascii ⟨c.toNat, lt_of_isPlain (hkey c hc)⟩
    simp only [Char.ofNat_toNat, hkey c hc, List.all_eq_true, forall_const] at hascii
    exact hascii d hd

theorem preprocessChar_of_isIdentChar {c : Char} (h : isIdentChar c = true) :
    preprocessChar c = c := by
  have hne : ∀ d, isIdentChar d = false → c ≠ d := by
    rintro d hd rfl
    simp [h] at hd
  have hcr : c ≠ '\r' := hne _ (by decide)
  have hff : c ≠ '\x0c' := hne _ (by decide)
  have hnul : c ≠ '\x00' := hne _ (by decide)
  simp [preprocessChar, hcr, hff, hnul]

theorem consumeIdent_append {l : List Char} (hl : ∀ c ∈ l, isIdentChar c = true) {d : Char}
    (hd : isIdentChar d = false) (hbs : d ≠ '\\') (name rest : List Char) :
    consumeIdent name (l ++ d :: rest) = (name ++ l, d :: rest) := by
  induction l generalizing name with
  | nil =>
    have hesc : startsEscape (d :: rest) = false := by
      unfold startsEscape
      split
      · next h => exact absurd (List.cons.inj h).1 hbs
      · rfl
    rw [consumeIdent.eq_def]
    simp [hd, hesc]
  | cons c l ih =>
    rw [List.cons_append, consumeIdent.eq_def]
    simp [hl c (List.mem_cons_self ..), ih fun c hc => hl c (List.mem_cons_of_mem _ hc)]

/-! ## Attribute selectors -/

theorem skipWhitespace_cons {c : Char} (hc : isWhitespace c = false) (rest : List Char) :
    skipWhitespace (c :: rest) = c :: rest := by
  simp [skipWhitespace, hc]

theorem expect?_self {c : Char} (hc : isWhitespace c = false) (rest : List Char) :
    expect? c (c :: rest) = some rest := by
  simp [expect?, skipWhitespace_cons hc]

/-- The text of a data selector after preprocessing: the attribute name and the brackets are
kept as they are, and the escaped value is preprocessed character by character. -/
theorem preprocess_dataSelector {key : String} (hkey : ∀ c ∈ key.toList, isPlain c = true)
    (v : String) :
    preprocess (dataSelector key v).toList =
      '[' :: ((datasetAttribute key).toList ++
        '=' :: '"' :: ((v.toList.map preprocessChar).flatMap escapeChar ++ ['"', ']'])) := by
  have hattr := isIdentChar_of_mem_datasetAttribute hkey
  have hfixed : ∀ c ∈ '[' :: (datasetAttribute key).toList ++ ['=', '"'], preprocessChar c = c := by
    intro c hc
    simp only [List.cons_append, List.mem_cons, List.mem_append, List.not_mem_nil,
      or_false] at hc
    rcases hc with rfl | hc | rfl | rfl
    · decide
    · exact preprocessChar_of_isIdentChar (hattr c hc)
    · decide
    · decide
  have htext : (dataSelector key v).toList =
      ('[' :: (datasetAttribute key).toList ++ ['=', '"']) ++
        ((v.toList.flatMap escapeChar) ++ ['"', ']']) := by
    simp only [dataSelector, String.toList_append, toList_cssEscape, List.append_assoc]
    rfl
  rw [htext, preprocess_append_of_fixed hfixed, preprocess_escaped _ (by simp)]
  simp only [List.cons_append, List.append_assoc]
  rfl

/-- A data selector for a key of plain characters reads as the test of the key's data
attribute for equality with what the escaped value stands for. -/
theorem readAttributeSelector?_dataSelector {key : String}
    (hkey : ∀ c ∈ key.toList, isPlain c = true) (v : String) :
    readAttributeSelector? (dataSelector key v) =
      (quotedValue? (cssEscape v)).map (AttributeSelector.mk (datasetAttribute key)) := by
  have hattr := isIdentChar_of_mem_datasetAttribute hkey
  obtain ⟨name, hname⟩ : ∃ name, (datasetAttribute key).toList = 'd' :: name :=
    ⟨_, by simp [datasetAttribute]; rfl⟩
  have hstart : ∀ rest, startsIdent ((datasetAttribute key).toList ++ rest) = true := by
    intro rest
    rw [hname, List.cons_append, startsIdent.eq_3 _ _ (by decide)]
    simp [isIdentStart]
  have hskip : ∀ rest, skipWhitespace ((datasetAttribute key).toList ++ rest) =
      (datasetAttribute key).toList ++ rest := by
    intro rest
    rw [hname, List.cons_append, skipWhitespace_cons (by decide)]
  have hident : ∀ rest, readIdent? ((datasetAttribute key).toList ++ '=' :: rest) =
      some ((datasetAttribute key).toList, '=' :: rest) := by
    intro rest
    rw [readIdent?, if_pos (hstart _), consumeIdent_append hattr (by decide) (by decide),
      List.nil_append]
  have hopen := expect?_self (c := '[') (by decide)
  have hequals := expect?_self (c := '=') (by decide)
  have hquote := expect?_self (c := '"') (by decide)
  have hclose := expect?_self (c := ']') (by decide)
  rw [quotedValue?_cssEscape, filter_preprocess]
  simp only [readAttributeSelector?, preprocess_dataSelector hkey, hopen, hskip, hident, hequals,
    hquote, readString?_escaped, hclose, Option.bind_eq_bind, Option.bind_some]
  simp [skipWhitespace, String.ofList_toList]

/-! ## Reading an escaped value back -/

/-- An escaped value, read as the contents of a double-quoted CSS string, stands for the value
preprocessed with its line feeds removed; so it stands for exactly the value when the value has
no line feed, carriage return, form feed or NUL; and a data selector for a key of plain
characters tests the key's data attribute for equality with what the escaped value stands
for. -/
theorem cssEscape_reads_back_without_line_feeds (v : String) :
    quotedValue? (cssEscape v) =
        some (String.ofList ((preprocess v.toList).filter (· != '\n'))) ∧
      (quotedValue? (cssEscape v) = some v ↔
        ∀ c ∈ v.toList, c ≠ '\n' ∧ c ≠ '\r' ∧ c ≠ '\x0c' ∧ c ≠ '\x00') ∧
      ∀ key : String, (∀ c ∈ key.toList, isPlain c = true) →
        readAttributeSelector? (dataSelector key v) =
          (quotedValue? (cssEscape v)).map (AttributeSelector.mk (datasetAttribute key)) :=
  ⟨quotedValue?_cssEscape v, quotedValue?_cssEscape_eq_self_iff v,
    fun _ hkey => readAttributeSelector?_dataSelector hkey v⟩

/-- The device `a⏎b` is looked up as `ab`: the backslash before its line feed is a line
continuation. -/
theorem escaped_line_feed_is_dropped :
    quotedValue? (cssEscape "a\nb") = some "ab" ∧
      readAttributeSelector? (dataSelector "deviceId" "a\nb") =
        some ⟨"data-device-id", "ab"⟩ := by
  constructor <;> decide +kernel

end Css

end HomePanel
