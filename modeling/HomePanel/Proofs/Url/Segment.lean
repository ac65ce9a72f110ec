import HomePanel.Proofs.Url.Form
import Mathlib

/-!
# Path segments

A value put into a path is encoded as one segment (`encodeSegment`), the way
`encodeURIComponent` does it. On bytes this is the rule of a percent-encoding set
(`percentEncodeBytes`): the UTF-8 bytes of the text are written in order, a byte that is an
ASCII letter or digit or one of `- _ . ! ~ * ' ( )` (`unreservedByte`) as itself, and every
other byte, each byte of a non-ASCII character included, as `%` and two uppercase hex
digits (`utf8_encodeSegment`).

So an encoded segment is a run of kept characters and triplets (`SegmentText`), holds
none of `/ ? # { }`, and percent-decoding gives back the text
(`percentDecodeText_encodeSegment`): no two texts have one encoding.
-/

namespace HomePanel
namespace Url

/-! ## Bytes a segment keeps -/

/-- The bytes `encodeURIComponent` keeps: ASCII letters and digits and
`- _ . ! ~ * ' ( )`. -/
def unreservedByte (b : UInt8) : Bool :=
  (0x41 ≤ b && b ≤ 0x5A) || (0x61 ≤ b && b ≤ 0x7A) || (0x30 ≤ b && b ≤ 0x39) ||
    [0x2D, 0x5F, 0x2E, 0x21, 0x7E, 0x2A, 0x27, 0x28, 0x29].contains b

/-- Percent-encoding of bytes: a byte that `keep` holds as itself, any other as the bytes of
its `%XX` triplet. -/
def percentEncodeBytes (keep : UInt8 → Bool) (bs : List UInt8) : List UInt8 :=
  bs.flatMap fun b => if keep b then [b] else (percentByte b).map asciiByte

@[simp] theorem percentEncodeBytes_nil (keep : UInt8 → Bool) : percentEncodeBytes keep [] = [] :=
  rfl

theorem percentEncodeBytes_cons (keep : UInt8 → Bool) (b : UInt8) (bs : List UInt8) :
    percentEncodeBytes keep (b :: bs) =
      (if keep b then [b] else (percentByte b).map asciiByte) ++ percentEncodeBytes keep bs :=
  List.flatMap_cons

theorem percentEncodeBytes_append (keep : UInt8 → Bool) (bs bs' : List UInt8) :
    percentEncodeBytes keep (bs ++ bs') =
      percentEncodeBytes keep bs ++ percentEncodeBytes keep bs' :=
  List.flatMap_append

/-- For a character below 128, keeping it in a segment is keeping its byte. -/
theorem segmentKeeps_eq_unreservedByte_ascii :
    ∀ n : Fin 128, segmentKeeps (Char.ofNat n) = unreservedByte (asciiByte (Char.ofNat n)) := by
  decide

theorem segmentKeeps_eq_unreservedByte {c : Char} (h : c.toNat < 128) :
    segmentKeeps c = unreservedByte (asciiByte c) := by
  have hc := segmentKeeps_eq_unreservedByte_ascii ⟨c.toNat, h⟩
  rwa [Fin.val_mk, Char.ofNat_toNat] at hc

theorem lt_of_segmentKeeps {c : Char} (h : segmentKeeps c = true) : c.toNat < 128 := by
  simp only [segmentKeeps, Bool.or_eq_true] at h
  rcases h with h | h
  · exact lt_of_isAsciiAlnum h
  · simp only [List.contains_cons, List.contains_nil, Bool.or_false, Bool.or_eq_true,
      beq_iff_eq] at h
    rcases h with rfl | rfl | rfl | rfl | rfl | rfl | rfl | rfl | rfl <;> decide

theorem lt_of_unreservedByte {b : UInt8} (h : unreservedByte b = true) : b.toNat < 128 := by
  simp only [unreservedByte, Bool.or_eq_true, Bool.and_eq_true, decide_eq_true_eq,
    UInt8.le_iff_toNat_le, List.contains_cons, List.contains_nil, Bool.or_false,
    beq_iff_eq] at h
  rcases h with ((⟨-, h⟩ | ⟨-, h⟩) | ⟨-, h⟩) | h
  · exact lt_of_le_of_lt h (by decide)
  · exact lt_of_le_of_lt h (by decide)
  · exact lt_of_le_of_lt h (by decide)
  · rcases h with rfl | rfl | rfl | rfl | rfl | rfl | rfl | rfl | rfl <;> decide

theorem unreservedByte_of_le {b : UInt8} (h : 128 ≤ b.toNat) : unreservedByte b = false := by
  cases hb : unreservedByte b with
  | false => rfl
  | true => exact absurd (lt_of_unreservedByte hb) (by omega)

/-- Every UTF-8 byte of a character from 128 on is 128 or more. -/
theorem le_of_mem_utf8EncodeChar {c : Char} (hc : 128 ≤ c.toNat) {b : UInt8}
    (hb : b ∈ String.utf8EncodeChar c) : 128 ≤ b.toNat := by
  have hv : c.val.toNat = c.toNat := rfl
  simp only [String.utf8EncodeChar, hv, show ¬ c.toNat ≤ 127 by omega, if_false] at hb
  split at hb
  · simp only [List.mem_cons, List.not_mem_nil, or_false] at hb
    rcases hb with rfl | rfl <;> simp only [UInt8.toNat_ofNat'] <;> omega
  · split at hb
    · simp only [List.mem_cons, List.not_mem_nil, or_false] at hb
      rcases hb with rfl | rfl | rfl <;> simp only [UInt8.toNat_ofNat'] <;> omega
    · simp only [List.mem_cons, List.not_mem_nil, or_false] at hb
      rcases hb with rfl | rfl | rfl | rfl <;> simp only [UInt8.toNat_ofNat'] <;> omega

/-! ## Segments on bytes -/

/-- The UTF-8 bytes of one encoded character are its own bytes, percent-encoded. -/
theorem utf8_encodeSegmentChar (c : Char) :
    (encodeSegmentChar c).flatMap String.utf8EncodeChar =
      percentEncodeBytes unreservedByte (String.utf8EncodeChar c) := by
  by_cases hascii : c.toNat < 128
  · have hkeep := segmentKeeps_eq_unreservedByte hascii
    rw [utf8EncodeChar_of_lt hascii]
    unfold encodeSegmentChar
    cases hk : segmentKeeps c with
    | true =>
        rw [hk] at hkeep
        simp [percentEncodeBytes, ← hkeep, utf8EncodeChar_of_lt hascii]
    | false =>
        rw [hk] at hkeep
        simp only [Bool.false_eq_true, if_false, percentChar, utf8EncodeChar_of_lt hascii,
          percentEncodeBytes, List.flatMap_singleton, ← hkeep]
        exact flatMap_utf8EncodeChar_of_lt fun _ hx => lt_of_mem_percentChar
          (by rw [percentChar, utf8EncodeChar_of_lt hascii, List.flatMap_singleton]; exact hx)
  · -- a non-ASCII character is not kept, and none of its bytes is
    have hkeep : segmentKeeps c = false := by
      cases hk : segmentKeeps c with
      | true => exact absurd (lt_of_segmentKeeps hk) hascii
      | false => rfl
    rw [encodeSegmentChar, hkeep, if_neg Bool.false_ne_true,
      flatMap_utf8EncodeChar_of_lt fun _ hx => lt_of_mem_percentChar hx, percentChar,
      List.map_flatMap, percentEncodeBytes]
    apply List.flatMap_congr
    intro b hb
    rw [unreservedByte_of_le (le_of_mem_utf8EncodeChar (by omega) hb), if_neg Bool.false_ne_true]

/-- Encoding a segment is percent-encoding its UTF-8 bytes with the unreserved bytes kept. -/
theorem utf8_encodeSegment (s : String) :
    (encodeSegment s).toList.flatMap String.utf8EncodeChar =
      percentEncodeBytes unreservedByte (s.toList.flatMap String.utf8EncodeChar) := by
  rw [encodeSegment, String.toList_ofList, List.flatMap_assoc]
  induction s.toList with
  | nil => rfl
  | cons c cs ih =>
      rw [List.flatMap_cons, List.flatMap_cons, utf8_encodeSegmentChar, ih,
        percentEncodeBytes_append]

/-! ## Reading back -/

/-- Percent-encoded bytes read back as themselves when `%` is not kept. -/
theorem percentDecode_percentEncodeBytes {keep : UInt8 → Bool} (hkeep : keep 37 = false)
    (bs rest : List UInt8) :
    percentDecode (percentEncodeBytes keep bs ++ rest) = bs ++ percentDecode rest := by
  induction bs with
  | nil => rfl
  | cons b bs ih =>
      rw [percentEncodeBytes_cons, List.append_assoc]
      by_cases hb : keep b = true
      · have hne : b ≠ 37 := by
          rintro rfl
          rw [hkeep] at hb
          exact Bool.false_ne_true hb
        rw [if_pos hb, List.singleton_append, percentDecode_cons_of_ne hne, ih, List.cons_append]
      · rw [if_neg hb, percentDecode_percentByte, ih, List.cons_append]

/-- A text percent-decoded: its UTF-8 bytes with every `%XX` replaced by its byte, read as
UTF-8. -/
def percentDecodeText (t : String) : Option String :=
  String.fromUTF8? (percentDecode (t.toList.flatMap String.utf8EncodeChar)).toByteArray

theorem percentDecodeText_encodeSegment (s : String) :
    percentDecodeText (encodeSegment s) = some s := by
  have hdecode := @percentDecode_percentEncodeBytes unreservedByte (by decide)
    (s.toList.flatMap String.utf8EncodeChar) []
  rw [List.append_nil, percentDecode.eq_3, List.append_nil] at hdecode
  rw [percentDecodeText, utf8_encodeSegment, hdecode, fromUTF8?_flatMap_utf8EncodeChar,
    String.ofList_toList]

theorem encodeSegment_injective : Function.Injective encodeSegment := by
  intro s t h
  have hs := percentDecodeText_encodeSegment s
  rw [h, percentDecodeText_encodeSegment t, Option.some.injEq] at hs
  exact hs.symm

/-! ## The characters of a segment -/

/-- Text made of characters a segment keeps and `%XX` triplets with uppercase hex
digits. -/
inductive SegmentText : List Char → Prop
  | nil : SegmentText []
  | kept {c : Char} {rest : List Char} : segmentKeeps c = true → SegmentText rest →
      SegmentText (c :: rest)
  | triplet {hi lo : Char} {rest : List Char} : hi ∈ upperHexDigits → lo ∈ upperHexDigits →
      SegmentText rest → SegmentText ('%' :: hi :: lo :: rest)

theorem SegmentText.percentBytes (bs : List UInt8) {rest : List Char} (h : SegmentText rest) :
    SegmentText (bs.flatMap percentByte ++ rest) := by
  induction bs with
  | nil => exact h
  | cons b bs ih =>
      have hb : b.toNat < 256 := UInt8.toNat_lt_size b
      rw [List.flatMap_cons, List.append_assoc]
      exact .triplet (hexDigitUpper_mem (by omega)) (hexDigitUpper_mem (by omega)) ih

theorem segmentText_encodeSegment (s : String) : SegmentText (encodeSegment s).toList := by
  rw [encodeSegment, String.toList_ofList]
  induction s.toList with
  | nil => exact .nil
  | cons c cs ih =>
      rw [List.flatMap_cons]
      unfold encodeSegmentChar
      split
      · next hkeep => exact .kept hkeep ih
      · exact SegmentText.percentBytes _ ih

theorem SegmentText.mem {cs : List Char} (h : SegmentText cs) {x : Char} (hx : x ∈ cs) :
    segmentKeeps x = true ∨ x = '%' ∨ x ∈ upperHexDigits := by
  induction h with
  | nil => simp at hx
  | kept hkeep _ ih =>
      rcases List.mem_cons.mp hx with rfl | hx
      · exact .inl hkeep
      · exact ih hx
  | triplet hhi hlo _ ih =>
      simp only [List.mem_cons] at hx
      rcases hx with rfl | rfl | rfl | hx
      · exact .inr (.inl rfl)
      · exact .inr (.inr hhi)
      · exact .inr (.inr hlo)
      · exact ih hx

/-- The characters a segment may not hold raw: they end a segment, a path, or a
placeholder. -/
def pathDelimiters : List Char := ['/', '?', '#', '\x7b', '\x7d']

theorem delimiter_not_segmentText {x : Char} (hx : x ∈ pathDelimiters) :
    segmentKeeps x = false ∧ x ≠ '%' ∧ x ∉ upperHexDigits := by
  simp only [pathDelimiters, List.mem_cons, List.not_mem_nil, or_false] at hx
  rcases hx with rfl | rfl | rfl | rfl | rfl <;> decide

theorem delimiter_not_mem_encodeSegment (s : String) :
    ∀ x ∈ pathDelimiters, x ∉ (encodeSegment s).toList := by
  intro x hx hmem
  obtain ⟨hkeep, hpercent, hhex⟩ := delimiter_not_segmentText hx
  rcases (segmentText_encodeSegment s).mem hmem with h | h | h
  · rw [hkeep] at h
    exact Bool.false_ne_true h
  · exact hpercent h
  · exact hhex h

/-- Encoding a path segment percent-encodes every UTF-8 byte but the unreserved ones, so
the result is kept characters and uppercase triplets only, holds no delimiter, and
decodes back to the text: two texts never share an encoding. -/
theorem encodeSegment_percent_encodes_reserved_bytes (s : String) :
    SegmentText (encodeSegment s).toList ∧
    (encodeSegment s).toList.flatMap String.utf8EncodeChar =
      percentEncodeBytes unreservedByte (s.toList.flatMap String.utf8EncodeChar) ∧
    percentDecodeText (encodeSegment s) = some s ∧
    (∀ t, encodeSegment t = encodeSegment s → t = s) ∧
    ∀ x ∈ pathDelimiters, x ∉ (encodeSegment s).toList :=
  ⟨segmentText_encodeSegment s, utf8_encodeSegment s, percentDecodeText_encodeSegment s,
    fun _ h => encodeSegment_injective h, delimiter_not_mem_encodeSegment s⟩

example : encodeSegment "a&b=c/d?é" = "a%26b%3Dc%2Fd%3F%C3%A9" := by decide +kernel

end Url
end HomePanel
