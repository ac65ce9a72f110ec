import HomePanel.Url.Host

/-!
# Percent triplets read back

Both URL encodings of this library write a byte as `%` and two uppercase hex
digits (`percentByte`), and a character they do not keep as the triplets of its
UTF-8 bytes (`percentChar`). Read back through the URL parser's own
percent-decoding (`percentDecode`, on bytes), a triplet gives back its byte, so
the triplets of a character give back its UTF-8 bytes
(`percentDecode_percentChar`).

Every character of a triplet is `%` or one of the sixteen uppercase hex digits,
so it is ASCII and none of the separators of a URL.
-/

namespace HomePanel
namespace Url

/-! ## ASCII characters as bytes -/

/-- The byte of a character below 128: its UTF-8 encoding. -/
def asciiByte (c : Char) : UInt8 := UInt8.ofNat c.toNat

theorem utf8EncodeChar_of_lt {c : Char} (h : c.toNat < 128) :
    String.utf8EncodeChar c = [asciiByte c] := by
  have hle : c.val.toNat ≤ 127 := by
    have hval : c.toNat = c.val.toNat := rfl
    omega
  simp only [String.utf8EncodeChar, if_pos hle]
  rfl

theorem flatMap_utf8EncodeChar_of_lt {cs : List Char} (h : ∀ c ∈ cs, c.toNat < 128) :
    cs.flatMap String.utf8EncodeChar = cs.map asciiByte := by
  induction cs with
  | nil => rfl
  | cons c rest ih =>
      have hc := h c List.mem_cons_self
      have hrest : ∀ x ∈ rest, x.toNat < 128 := fun x hx => h x (List.mem_cons_of_mem _ hx)
      rw [List.flatMap_cons, List.map_cons, utf8EncodeChar_of_lt hc, ih hrest]
      rfl

theorem toNat_asciiByte {c : Char} (h : c.toNat < 128) : (asciiByte c).toNat = c.toNat := by
  simp only [asciiByte, UInt8.toNat_ofNat']
  omega

theorem ofNat_asciiByte {c : Char} (h : c.toNat < 128) :
    Char.ofNat (asciiByte c).toNat = c := by
  rw [toNat_asciiByte h, Char.ofNat_toNat]

theorem asciiByte_eq_iff {c d : Char} (hc : c.toNat < 128) (hd : d.toNat < 128) :
    asciiByte c = asciiByte d ↔ c = d := by
  constructor
  · intro h
    rw [← ofNat_asciiByte hc, ← ofNat_asciiByte hd, h]
  · intro h
    rw [h]

/-! ## Hex digits -/

/-- The characters `hexDigitUpper` writes. -/
def upperHexDigits : List Char :=
  ['0', '1', '2', '3', '4', '5', '6', '7', '8', '9', 'A', 'B', 'C', 'D', 'E', 'F']

theorem hexDigitUpper_facts :
    ∀ n : Fin 16, hexDigitUpper n ∈ upperHexDigits ∧ isHexDigit (hexDigitUpper n) = true ∧
      hexDigitValue (hexDigitUpper n) = n := by
  decide

theorem hexDigitUpper_mem {n : Nat} (h : n < 16) : hexDigitUpper n ∈ upperHexDigits :=
  (hexDigitUpper_facts ⟨n, h⟩).1

theorem isHexDigit_hexDigitUpper {n : Nat} (h : n < 16) : isHexDigit (hexDigitUpper n) = true :=
  (hexDigitUpper_facts ⟨n, h⟩).2.1

theorem hexDigitValue_hexDigitUpper {n : Nat} (h : n < 16) : hexDigitValue (hexDigitUpper n) = n :=
  (hexDigitUpper_facts ⟨n, h⟩).2.2

theorem lt_of_mem_upperHexDigits {c : Char} (h : c ∈ upperHexDigits) : c.toNat < 128 := by
  simp only [upperHexDigits, List.mem_cons, List.not_mem_nil, or_false] at h
  rcases h with h | h | h | h | h | h | h | h | h | h | h | h | h | h | h | h <;>
    (subst h; decide)

/-! ## Triplets -/

theorem mem_percentByte {b : UInt8} {x : Char} (h : x ∈ percentByte b) :
    x = '%' ∨ x ∈ upperHexDigits := by
  have hb : b.toNat < 256 := UInt8.toNat_lt_size b
  simp only [percentByte, List.mem_cons, List.not_mem_nil, or_false] at h
  rcases h with h | h | h
  · exact .inl h
  · exact .inr (h ▸ hexDigitUpper_mem (by omega))
  · exact .inr (h ▸ hexDigitUpper_mem (by omega))

theorem mem_percentChar {c x : Char} (h : x ∈ percentChar c) :
    x = '%' ∨ x ∈ upperHexDigits := by
  obtain ⟨b, _, hx⟩ := List.mem_flatMap.mp h
  exact mem_percentByte hx

theorem lt_of_mem_percentChar {c x : Char} (h : x ∈ percentChar c) : x.toNat < 128 := by
  rcases mem_percentChar h with h | h
  · rw [h]
    decide
  · exact lt_of_mem_upperHexDigits h

theorem percentDecode_cons_of_ne {b : UInt8} (h : b ≠ 37) (rest : List UInt8) :
    percentDecode (b :: rest) = b :: percentDecode rest := by
  apply percentDecode.eq_2
  intro _ _ _ hb
  exact absurd hb h

/-- A triplet reads back as its byte. -/
theorem percentDecode_percentByte (b : UInt8) (rest : List UInt8) :
    percentDecode ((percentByte b).map asciiByte ++ rest) = b :: percentDecode rest := by
  have hb : b.toNat < 256 := UInt8.toNat_lt_size b
  have hhi : b.toNat / 16 < 16 := by omega
  have hlo : b.toNat % 16 < 16 := by omega
  have hhiAscii := lt_of_mem_upperHexDigits (hexDigitUpper_mem hhi)
  have hloAscii := lt_of_mem_upperHexDigits (hexDigitUpper_mem hlo)
  have hpercent : asciiByte '%' = 37 := rfl
  simp only [percentByte, List.map_cons, List.map_nil, List.cons_append, List.nil_append]
  rw [hpercent, percentDecode.eq_1, ofNat_asciiByte hhiAscii, ofNat_asciiByte hloAscii,
    isHexDigit_hexDigitUpper hhi, isHexDigit_hexDigitUpper hlo, if_pos ⟨rfl, rfl⟩,
    hexDigitValue_hexDigitUpper hhi, hexDigitValue_hexDigitUpper hlo]
  have hvalue : (b.toNat / 16 * 16 + b.toNat % 16).toUInt8 = b := by
    rw [show b.toNat / 16 * 16 + b.toNat % 16 = b.toNat by omega]
    exact UInt8.ofNat_toNat
  rw [hvalue]

theorem percentDecode_flatMap_percentByte (bs rest : List UInt8) :
    percentDecode ((bs.flatMap percentByte).map asciiByte ++ rest) = bs ++ percentDecode rest := by
  induction bs with
  | nil => rfl
  | cons b bs ih =>
      rw [List.flatMap_cons, List.map_append, List.append_assoc, percentDecode_percentByte, ih,
        List.cons_append]

/-- The triplets of a character read back as its UTF-8 bytes. -/
theorem percentDecode_percentChar (c : Char) (rest : List UInt8) :
    percentDecode ((percentChar c).map asciiByte ++ rest) =
      String.utf8EncodeChar c ++ percentDecode rest := by
  rw [percentChar]
  exact percentDecode_flatMap_percentByte (String.utf8EncodeChar c) rest

end Url
end HomePanel
