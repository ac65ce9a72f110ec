import HomePanel.Device
import HomePanel.Request.Response
import Mathlib

/-!
# Zero numbers, truthiness and compact text

The backend's JSON is read leniently: a device is on when its `isOn` field is truthy, and a
failed request reports a truthy `message` field. A value is falsy when it is null, false,
the empty string or a number equal to zero; every other value, every array and object
included, is truthy (`Json.truthy_eq_false_iff`).

Whether a number equals zero is asked of it as binary64, while `JsonNumber.isZero` asks it
of the number as written. The two agree because rounding a non-zero integer to binary64
never gives zero, however large the integer (`Binary64.isZero_roundQuotient_one`): the
rounding packs a significand in `[1, 2 ^ 53]` with an exponent from `-1074` on, and such a
pair has a non-zero fraction or a non-zero biased exponent.

Compact JSON text is never empty (`Json.compact_ne_empty`): each kind of value writes a
bracket, a quote, a keyword or a number, and every number text holds a digit, a point, an
exponent mark or a keyword.
-/

namespace HomePanel

/-! ## Integers never round to zero -/

namespace Binary64

theorem pow_two_52 : Nat.pow 2 52 = 4503599627370496 := rfl
theorem pow_two_53 : Nat.pow 2 53 = 9007199254740992 := rfl
theorem pow_two_63 : Nat.pow 2 63 = 9223372036854775808 := rfl

/-- The fields of a word built from fields in range are those fields. -/
theorem fields_ofFields (neg : Bool) {b f : Nat} (hb : b < 2048) (hf : f < Nat.pow 2 52) :
    (ofFields neg b f).biasedExponent = b ∧ (ofFields neg b f).fraction = f := by
  rw [pow_two_52] at hf
  have hword : (ofFields neg b f).bits.toNat =
      (if neg then Nat.pow 2 63 else 0) + b * Nat.pow 2 52 + f := by
    simp only [ofFields, Nat.toUInt64_eq, UInt64.toNat_ofNat', pow_two_52, pow_two_63]
    apply Nat.mod_eq_of_lt
    split <;> omega
  have h11 : Nat.pow 2 11 = 2048 := rfl
  simp only [biasedExponent, fraction, hword, pow_two_52, pow_two_63, h11]
  constructor <;> split <;> omega

theorem isZero_ofFields (neg : Bool) {b f : Nat} (hb : b < 2048) (hf : f < Nat.pow 2 52) :
    (ofFields neg b f).isZero = (b == 0 && f == 0) := by
  obtain ⟨hbe, hfr⟩ := fields_ofFields neg hb hf
  rw [isZero, hbe, hfr]

/-- A packed magnitude `m · 2 ^ e` with `0 < m ≤ 2 ^ 53` is not zero. -/
theorem isZero_pack (neg : Bool) {m : Nat} {e : Int} (hm : 0 < m) (hm' : m ≤ Nat.pow 2 53)
    (he : -1074 ≤ e) : (pack neg m e).isZero = false := by
  -- after the carry the significand is below `2 ^ 53` and the exponent still from `-1074`
  obtain ⟨m', e', hcarry, hm'0, hm'1, he'⟩ : ∃ m' e',
      (if m = Nat.pow 2 53 then (Nat.pow 2 52, e + 1) else (m, e)) = (m', e') ∧
        0 < m' ∧ m' < Nat.pow 2 53 ∧ -1074 ≤ e' := by
    split
    · exact ⟨_, _, rfl, by decide, by decide, by omega⟩
    · exact ⟨_, _, rfl, hm, by omega, he⟩
  rw [pack, hcarry]
  dsimp only
  split
  · rw [isZero_ofFields neg (by decide) (by assumption)]
    simp only [beq_self_eq_true, Bool.true_and, beq_eq_false_iff_ne]
    omega
  · split
    · exact (isZero_ofFields neg (by decide) (by decide)).trans rfl
    · rw [isZero_ofFields neg (by omega) (by rw [pow_two_53] at hm'1; rw [pow_two_52]; omega)]
      simp only [Bool.and_eq_false_iff, beq_eq_false_iff_ne]
      left
      omega

theorem floorLog2_one {n : Nat} (hn : 0 < n) : floorLog2 n 1 = n.log2 := by
  have hle : 2 ^ n.log2 ≤ n := Nat.log2_self_le (by omega)
  have hone : Nat.log2 1 = 0 := by decide
  simp only [floorLog2, pow2MulLE, hone, Int.natCast_zero, sub_zero, Int.toNat_natCast,
    Nat.pow_eq, one_mul, Int.natCast_nonneg, if_true, decide_eq_true hle]

/-- For a positive integer `n` the rounding works with the quotient of `n · 2 ^ d` by `1`, or of
`n` by `2 ^ -d`, at `d = 52 - log2 n`: it lies in `[1, 2 ^ 53)`. -/
theorem shiftedQuotient_bounds {n : Nat} (hn : 0 < n) {d : Int} (hd : d = 52 - n.log2) :
    0 < (if 0 ≤ d then n * Nat.pow 2 d.toNat else n) /
        (if 0 ≤ d then 1 else 1 * Nat.pow 2 (-d).toNat) ∧
      (if 0 ≤ d then n * Nat.pow 2 d.toNat else n) /
        (if 0 ≤ d then 1 else 1 * Nat.pow 2 (-d).toNat) < Nat.pow 2 53 := by
  have hlo : 2 ^ n.log2 ≤ n := Nat.log2_self_le (by omega)
  have hhi : n < 2 ^ (n.log2 + 1) := Nat.lt_log2_self
  simp only [Nat.pow_eq]
  rcases le_or_gt n.log2 52 with hsmall | hlarge
  · -- the integer is shifted up by `d` places and divided by one
    have hd' : d = ((52 - n.log2 : Nat) : Int) := by omega
    rw [if_pos (by omega), if_pos (by omega), Nat.div_one, hd', Int.toNat_natCast]
    have hpow : 2 ^ (n.log2 + 1) * 2 ^ (52 - n.log2) = 2 ^ 53 := by
      rw [← pow_add]
      congr 1
      omega
    constructor
    · positivity
    · calc n * 2 ^ (52 - n.log2) < 2 ^ (n.log2 + 1) * 2 ^ (52 - n.log2) :=
            Nat.mul_lt_mul_of_pos_right hhi (by positivity)
        _ = 2 ^ 53 := hpow
  · -- the integer is divided by `2 ^ -d`
    have hd' : -d = ((n.log2 - 52 : Nat) : Int) := by omega
    rw [if_neg (by omega), if_neg (by omega), one_mul, hd', Int.toNat_natCast]
    have hpow : 2 ^ 53 * 2 ^ (n.log2 - 52) = 2 ^ (n.log2 + 1) := by
      rw [← pow_add]
      congr 1
      omega
    constructor
    · apply Nat.div_pos _ (by positivity)
      exact le_trans (Nat.pow_le_pow_right (by decide) (by omega)) hlo
    · rw [Nat.div_lt_iff_lt_mul (by positivity), hpow]
      exact hhi

/-- Rounding up adds at most one to a quotient below `2 ^ 53`. -/
theorem rounded_bounds (up : Bool) {q : Nat} (h0 : 0 < q) (h1 : q < Nat.pow 2 53) :
    0 < (if up = true then q + 1 else q) ∧ (if up = true then q + 1 else q) ≤ Nat.pow 2 53 := by
  cases up <;> simp only [Bool.false_eq_true, if_false, if_true] <;> omega

/-- Rounding a positive integer packs a significand in `[1, 2 ^ 53]` at an exponent from
`-1074` on. -/
theorem roundQuotient_one_eq_pack (neg : Bool) {n : Nat} (hn : 0 < n) :
    ∃ m e, 0 < m ∧ m ≤ Nat.pow 2 53 ∧ -1074 ≤ e ∧ roundQuotient neg n 1 0 = pack neg m e := by
  rw [roundQuotient, if_neg (by omega), floorLog2_one hn]
  dsimp only
  have hd : 0 - max ((n.log2 : Int) + 0 - 52) (-1074) = 52 - n.log2 := by omega
  obtain ⟨hpos, hlt⟩ := shiftedQuotient_bounds hn hd
  exact ⟨_, _, (rounded_bounds _ hpos hlt).1, (rounded_bounds _ hpos hlt).2,
    le_max_right _ _, rfl⟩

/-- Rounding an integer to binary64 gives zero only for zero. -/
theorem isZero_roundQuotient_one (neg : Bool) (n : Nat) :
    (roundQuotient neg n 1 0).isZero = (n == 0) := by
  rcases Nat.eq_zero_or_pos n with rfl | hn
  · rw [roundQuotient, if_pos (.inl rfl), signedZero, isZero_ofFields neg (by decide) (by decide)]
    rfl
  · obtain ⟨m, e, hm, hm', he, hpack⟩ := roundQuotient_one_eq_pack neg hn
    rw [hpack, isZero_pack neg hm hm' he, eq_comm, beq_eq_false_iff_ne]
    omega

theorem isZero_ofNat (n : Nat) : (ofNat n).isZero = (n == 0) :=
  isZero_roundQuotient_one false n

theorem isZero_ofInt (i : Int) : (ofInt i).isZero = (i == 0) := by
  rw [ofInt, isZero_roundQuotient_one]
  simp [beq_eq_decide, Int.natAbs_eq_zero]

end Binary64

/-- A JSON number is zero as binary64 exactly when it is zero as written. -/
theorem JsonNumber.isZero_toBinary64 (n : JsonNumber) : n.toBinary64.isZero = n.isZero := by
  cases n with
  | nat n => exact Binary64.isZero_ofNat n
  | negInt i => exact Binary64.isZero_ofInt i
  | float x => rfl

/-! ## Truthiness -/

/-- Falsy values have four shapes: null, false, a number equal to zero as binary64, and
the empty string. -/
theorem Json.truthy_eq_false_iff (v : Json) :
    v.truthy = false ↔ v = .null ∨ v = .bool false ∨
      (∃ n, v = .number n ∧ n.toBinary64.isZero = true) ∨ v = .string "" := by
  cases v with
  | null => simp [Json.truthy]
  | bool b => cases b <;> simp [Json.truthy]
  | number n => simp [Json.truthy, JsonNumber.isZero_toBinary64]
  | string s => simp [Json.truthy, String.isEmpty_iff]
  | array items => simp [Json.truthy]
  | object fields => simp [Json.truthy]

/-! ## Compact text is never empty -/

theorem String.append_ne_empty_of_left {s : String} (h : s ≠ "") (t : String) : s ++ t ≠ "" :=
  fun he => h (String.append_eq_empty_iff.mp he).1

theorem String.append_ne_empty_of_right (s : String) {t : String} (h : t ≠ "") : s ++ t ≠ "" :=
  fun he => h (String.append_eq_empty_iff.mp he).2

namespace NumberLayout

/-- Under the JSON layout every way of writing a decimal writes `.0`, a point, `0.` or an
exponent mark. -/
theorem decimalText_json_ne_empty (d : Decimal) : json.decimalText d ≠ "" := by
  unfold decimalText
  dsimp only
  split_ifs with hpositional hexponent hpoint hpoint' hsingle hlead hlead'
  · exact String.append_ne_empty_of_right _ (by decide)
  · exact absurd rfl hpoint
  · exact String.append_ne_empty_of_left (String.append_ne_empty_of_right _ (by decide)) _
  · exact String.append_ne_empty_of_left (String.append_ne_empty_of_left (by decide) _) _
  all_goals
    exact String.append_ne_empty_of_left
      (String.append_ne_empty_of_left (String.append_ne_empty_of_right _ (by decide)) _) _

theorem render_json_ne_empty (x : Binary64) : json.render x ≠ "" := by
  unfold render
  split
  · decide
  · split
    · split <;> decide
    · dsimp only
      split
      · exact String.append_ne_empty_of_right _ (by decide)
      · exact String.append_ne_empty_of_right _ (decimalText_json_ne_empty _)

end NumberLayout

theorem JsonNumber.text_ne_empty (n : JsonNumber) : n.text ≠ "" := by
  cases n with
  | nat n => simp [JsonNumber.text, Nat.repr]
  | negInt i =>
      cases i with
      | ofNat m => simp [JsonNumber.text, Int.repr, Nat.repr]
      | negSucc m => simp [JsonNumber.text, Int.repr, String.append_eq_empty_iff]
  | float x => exact NumberLayout.render_json_ne_empty x

theorem Json.compact_ne_empty (v : Json) : v.compact ≠ "" := by
  cases v with
  | null => simp [Json.compact]
  | bool b => cases b <;> simp [Json.compact]
  | number n => simpa [Json.compact] using n.text_ne_empty
  | string s => simp [Json.compact, Json.quote]
  | array items => simp [Json.compact, String.append_eq_empty_iff]
  | object fields => simp [Json.compact, String.append_eq_empty_iff]

end HomePanel
