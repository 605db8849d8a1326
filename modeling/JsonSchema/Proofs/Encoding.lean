import JsonSchema.Text.Percent
import Mathlib.Data.UInt

/-!
Texts as bytes, and percent-encoded texts. The bytes of a text read back as the text; and a text that spells some bytes,
each as it is or by its two hexadecimal digits, is decoded to them if no percent sign stands for itself.
-/
namespace JsonSchema

namespace Utf8

theorem toNat_toUInt8 {n : Nat} (h : n < 0x100) : n.toUInt8.toNat = n := by
  simpa using Nat.mod_eq_of_lt h

theorem lead_eq_ascii {b : UInt8} (h : b.toNat < 0x80) : lead b = .ascii := by
  have hlt : b < 0x80 := UInt8.lt_iff_toNat_lt.mpr h
  rw [lead, if_pos hlt]

theorem lead_eq_two {b : UInt8} (h : 0xc2 ≤ b.toNat) (h' : b.toNat < 0xe0) : lead b = .two := by
  simp only [lead, UInt8.lt_iff_toNat_lt, UInt8.reduceToNat]
  rw [if_neg (by omega), if_neg (by omega), if_pos h']

/-- The second of three bytes tells surrogates and what is written too long apart from what is well formed. -/
theorem lead_eq_three {b : UInt8} (h : 0xe0 ≤ b.toNat) (h' : b.toNat < 0xf0) :
    lead b = .three (if b.toNat = 0xe0 then 0xa0 else 0x80) (if b.toNat = 0xed then 0x9f else 0xbf) := by
  simp only [lead, UInt8.lt_iff_toNat_lt, beq_iff_eq, ← UInt8.toNat_inj, UInt8.reduceToNat]
  rw [if_neg (by omega), if_neg (by omega), if_neg (by omega)]
  by_cases hlow : b.toNat = 0xe0
  · simp [hlow]
  · by_cases hhigh : b.toNat = 0xed
    · simp [hhigh]
    · rw [if_neg hlow, if_neg hhigh, if_pos h', if_neg hlow, if_neg hhigh]

theorem lead_eq_four {b : UInt8} (h : 0xf0 ≤ b.toNat) (h' : b.toNat ≤ 0xf4) :
    lead b = .four (if b.toNat = 0xf0 then 0x90 else 0x80) (if b.toNat = 0xf4 then 0x8f else 0xbf) := by
  simp only [lead, UInt8.lt_iff_toNat_lt, beq_iff_eq, ← UInt8.toNat_inj, UInt8.reduceToNat]
  rw [if_neg (by omega), if_neg (by omega), if_neg (by omega), if_neg (by omega), if_neg (by omega),
    if_neg (by omega)]
  by_cases hlow : b.toNat = 0xf0
  · simp [hlow]
  · by_cases hhigh : b.toNat = 0xf4
    · simp [hhigh]
    · have hlt : b.toNat < 0xf4 := by omega
      rw [if_neg hlow, if_pos hlt, if_neg hlow, if_neg hhigh]

theorem isContinuation_iff {b : UInt8} : isContinuation b ↔ 0x80 ≤ b.toNat ∧ b.toNat < 0xc0 := by
  simp [isContinuation, UInt8.le_iff_toNat_le, UInt8.lt_iff_toNat_lt]

variable {a b c d : UInt8} {rest : List UInt8}

theorem pieces_of_ascii (h : lead a = .ascii) : pieces (a :: rest) = some (Char.ofNat a.toNat) :: pieces rest := by
  rw [pieces.eq_def]
  simp only [h]

theorem pieces_of_two (h : lead a = .two) (hb : isContinuation b) :
    pieces (a :: b :: rest) = some (assemble (a.toNat - 0xc0) [b]) :: pieces rest := by
  rw [pieces.eq_def]
  simp only [h, hb, if_true]

theorem pieces_of_three {low high : UInt8} (h : lead a = .three low high) (hlow : low ≤ b) (hhigh : b ≤ high)
    (hc : isContinuation c) :
    pieces (a :: b :: c :: rest) = some (assemble (a.toNat - 0xe0) [b, c]) :: pieces rest := by
  rw [pieces.eq_def]
  simp only [h, hlow, hhigh, hc, decide_true, Bool.and_self, if_true]

theorem pieces_of_four {low high : UInt8} (h : lead a = .four low high) (hlow : low ≤ b) (hhigh : b ≤ high)
    (hc : isContinuation c) (hd : isContinuation d) :
    pieces (a :: b :: c :: d :: rest) = some (assemble (a.toNat - 0xf0) [b, c, d]) :: pieces rest := by
  rw [pieces.eq_def]
  simp only [h, hlow, hhigh, hc, hd, decide_true, Bool.and_self, if_true]

theorem pieces_encodeChar_append (c : Char) (rest : List UInt8) :
    pieces (encodeChar c ++ rest) = some c :: pieces rest := by
  have hvalid : c.toNat < 0xd800 ∨ 0xdfff < c.toNat ∧ c.toNat < 0x110000 := c.valid
  have hback {n : Nat} (h : n = c.toNat) : Char.ofNat n = c := by rw [h, Char.ofNat_toNat]
  have hcontinues (n : Nat) : isContinuation (0x80 + n % 0x40).toUInt8 := by
    rw [isContinuation_iff, toNat_toUInt8 (by omega)]
    omega
  unfold encodeChar
  generalize c.toNat = n at hvalid hback
  dsimp only
  -- One case for each number of bytes, in which the bytes are known as numbers.
  split
  · have ha : n.toUInt8.toNat = n := toNat_toUInt8 (by omega)
    rw [List.singleton_append, pieces_of_ascii (lead_eq_ascii (by omega)), ha, hback rfl]
  split
  · have ha : (0xc0 + n / 0x40).toUInt8.toNat = 0xc0 + n / 0x40 := toNat_toUInt8 (by omega)
    have hb : (0x80 + n % 0x40).toUInt8.toNat = 0x80 + n % 0x40 := toNat_toUInt8 (by omega)
    rw [List.cons_append, List.singleton_append, pieces_of_two (lead_eq_two (by omega) (by omega)) (hcontinues n),
      assemble]
    simp only [List.foldl_cons, List.foldl_nil, ha, hb]
    rw [hback (by omega)]
  split
  · have ha : (0xe0 + n / 0x1000).toUInt8.toNat = 0xe0 + n / 0x1000 := toNat_toUInt8 (by omega)
    have hb : (0x80 + n / 0x40 % 0x40).toUInt8.toNat = 0x80 + n / 0x40 % 0x40 := toNat_toUInt8 (by omega)
    have hc : (0x80 + n % 0x40).toUInt8.toNat = 0x80 + n % 0x40 := toNat_toUInt8 (by omega)
    have hlead := lead_eq_three (b := (0xe0 + n / 0x1000).toUInt8) (by omega) (by omega)
    rw [List.cons_append, List.cons_append, List.singleton_append, pieces_of_three hlead ?_ ?_ (hcontinues n), assemble]
    · simp only [List.foldl_cons, List.foldl_nil, ha, hb, hc]
      rw [hback (by omega)]
    · rw [UInt8.le_iff_toNat_le, ha, hb]
      split <;> simp
      omega
    · rw [UInt8.le_iff_toNat_le, ha, hb]
      split <;> simp <;> omega
  · have ha : (0xf0 + n / 0x40000).toUInt8.toNat = 0xf0 + n / 0x40000 := toNat_toUInt8 (by omega)
    have hb : (0x80 + n / 0x1000 % 0x40).toUInt8.toNat = 0x80 + n / 0x1000 % 0x40 := toNat_toUInt8 (by omega)
    have hc : (0x80 + n / 0x40 % 0x40).toUInt8.toNat = 0x80 + n / 0x40 % 0x40 := toNat_toUInt8 (by omega)
    have hd : (0x80 + n % 0x40).toUInt8.toNat = 0x80 + n % 0x40 := toNat_toUInt8 (by omega)
    have hlead := lead_eq_four (b := (0xf0 + n / 0x40000).toUInt8) (by omega) (by omega)
    rw [List.cons_append, List.cons_append, List.cons_append, List.singleton_append,
      pieces_of_four hlead ?_ ?_ (hcontinues _) (hcontinues n), assemble]
    · simp only [List.foldl_cons, List.foldl_nil, ha, hb, hc, hd]
      rw [hback (by omega)]
    · rw [UInt8.le_iff_toNat_le, ha, hb]
      split <;> simp
      omega
    · rw [UInt8.le_iff_toNat_le, ha, hb]
      split <;> simp <;> omega

theorem pieces_encode (chars : List Char) : pieces (encode chars) = chars.map some := by
  induction chars with
  | nil => rfl
  | cons c rest ih =>
    rw [encode, List.flatMap_cons, pieces_encodeChar_append]
    exact congrArg (some c :: ·) ih

theorem decodeLossy_bytes (text : String) : decodeLossy (bytes text) = text := by
  rw [decodeLossy, bytes, pieces_encode, List.map_map]
  have hsame : ((·.getD '\uFFFD') ∘ some : Char → Char) = id := rfl
  rw [hsame, List.map_id, String.ofList_toList]

end Utf8

namespace Percent

/-- A text spells bytes: each of them as it is, unless it is a percent sign, or by a percent sign and two hexadecimal
digits. -/
inductive Spells : List UInt8 → List UInt8 → Prop
  | nil : Spells [] []
  | plain {byte : UInt8} {text bytes : List UInt8} : byte ≠ 0x25 → Spells text bytes →
    Spells (byte :: text) (byte :: bytes)
  | escaped {a b byte : UInt8} {high low : Nat} {text bytes : List UInt8} : hexValue? a = some high →
    hexValue? b = some low → high * 0x10 + low = byte.toNat → Spells text bytes →
    Spells (0x25 :: a :: b :: text) (byte :: bytes)

theorem Spells.decodeBytes_eq {text bytes : List UInt8} (h : Spells text bytes) : decodeBytes text = bytes := by
  induction h with
  | nil => rfl
  | plain hplain _ ih =>
    rw [decodeBytes, ih]
    rintro _ _ _ rfl
    exact absurd rfl hplain
  | escaped ha hb hbyte _ ih =>
    rw [decodeBytes, ha, hb]
    simp only [ih, hbyte]
    simp

/-- A text that spells the bytes of another one is decoded to it. -/
theorem decode_of_spells {text meaning : String} (h : Spells (Utf8.bytes text) (Utf8.bytes meaning)) :
    decode text = meaning := by
  rw [decode, h.decodeBytes_eq, Utf8.decodeLossy_bytes]

end Percent

end JsonSchema
