import Loyalty.Text.Utf8
import Mathlib

/-!
# Loyalty.Proofs.Text.Utf8

Texts as bytes, and bytes read as UTF-8.

A character is read from the bytes that it is written in (`char?_utf8EncodeChar`),
and a reader of symbols takes as many bytes as the character has
(`symbolsAux_utf8EncodeChar`).  So the symbols of a text's bytes are its
characters, one by one (`symbols_encode`).
-/

namespace Loyalty.Text.Utf8

/-! ## characters -/

theorem isTail_iff {b : UInt8} : isTail b = true ↔ 0x80 ≤ b.toNat ∧ b.toNat ≤ 0xBF := by
  simp [isTail, UInt8.le_iff_toNat_le]

theorem isSecond_iff {a b : UInt8} :
    isSecond a b = true ↔ (0x80 ≤ b.toNat ∧ b.toNat ≤ 0xBF) ∧ (a.toNat = 0xE0 → 0xA0 ≤ b.toNat) ∧
      (a.toNat = 0xED → b.toNat ≤ 0x9F) ∧ (a.toNat = 0xF0 → 0x90 ≤ b.toNat) ∧
        (a.toNat = 0xF4 → b.toNat ≤ 0x8F) := by
  simp only [isSecond, Bool.and_eq_true, isTail_iff, ← UInt8.toNat_inj, UInt8.le_iff_toNat_le,
    UInt8.reduceToNat]
  repeat' split
  all_goals simp only [decide_eq_true_eq, eq_self, and_true]; omega

/-- The bytes of a character are read as the character, whatever follows them. -/
theorem char?_utf8EncodeChar (c : Char) (rest : List UInt8) :
    char? (String.utf8EncodeChar c ++ rest) = some (c, (String.utf8EncodeChar c).length - 1) := by
  have hvalid : c.val.toNat < 0xD800 ∨ 0xDFFF < c.val.toNat ∧ c.val.toNat < 0x110000 := c.valid
  have hchar : ∀ n, n = c.val.toNat → Char.ofNat n = c := by
    rintro _ rfl
    exact Char.ofNat_toNat c
  -- One case for each number of bytes; what the tests of the reader come to is arithmetic.
  fun_cases String.utf8EncodeChar c
  all_goals
    simp only [List.cons_append, List.nil_append, char?, Bool.and_eq_true, decide_eq_true_eq,
      isTail_iff, isSecond_iff, tailBits, UInt8.lt_iff_toNat_lt, UInt8.le_iff_toNat_le,
      UInt8.toNat_ofNat', UInt8.reduceToNat]
  · rw [if_pos (by omega), hchar _ (by omega)]
    rfl
  · rw [if_neg (by omega), if_pos (by omega), hchar _ (by omega)]
    rfl
  · rw [if_neg (by omega), if_neg (by omega), if_pos (by omega), hchar _ (by omega)]
    rfl
  · rw [if_neg (by omega), if_neg (by omega), if_neg (by omega), if_pos (by omega),
      hchar _ (by omega)]
    rfl

/-! ## texts -/

/-- Bytes that belong to the character read last are passed over. -/
theorem symbolsAux_skip (acc : List Symbol) (tails rest : List UInt8) :
    symbolsAux acc tails.length (tails ++ rest) = symbolsAux acc 0 rest := by
  induction tails with
  | nil => rfl
  | cons b tails ih => exact ih

theorem symbolsAux_utf8EncodeChar (acc : List Symbol) (c : Char) (rest : List UInt8) :
    symbolsAux acc 0 (String.utf8EncodeChar c ++ rest) = symbolsAux (some c :: acc) 0 rest := by
  have hchar := char?_utf8EncodeChar c rest
  obtain ⟨b, tails, hbytes⟩ := List.exists_cons_of_ne_nil (String.utf8EncodeChar_ne_nil (c := c))
  rw [hbytes] at hchar ⊢
  rw [List.cons_append, List.length_cons, Nat.add_sub_cancel] at hchar
  rw [List.cons_append, symbolsAux, hchar]
  exact symbolsAux_skip (some c :: acc) tails rest

theorem symbolsAux_flatMap (acc : List Symbol) (cs : List Char) :
    symbolsAux acc 0 (cs.flatMap String.utf8EncodeChar) = (cs.map some).reverse ++ acc := by
  induction cs generalizing acc with
  | nil => rfl
  | cons c cs ih => rw [List.flatMap_cons, symbolsAux_utf8EncodeChar, ih]; simp

theorem toList_loop (bytes : ByteArray) (i : Nat) (acc : List UInt8) :
    ByteArray.toList.loop bytes i acc = acc.reverse ++ bytes.data.toList.drop i := by
  fun_induction ByteArray.toList.loop bytes i acc with
  | case1 i acc hlt ih =>
      have hlen : i < bytes.data.toList.length := by simpa using hlt
      have hget : bytes.get! i = bytes.data.toList[i] := by
        change bytes.data[i]! = _
        rw [getElem!_pos bytes.data i hlt]
        rfl
      rw [ih, List.drop_eq_getElem_cons hlen, hget, List.reverse_cons, List.append_assoc]
      rfl
  | case2 i acc hlt =>
      rw [List.drop_eq_nil_of_le (by simpa using Nat.le_of_not_lt hlt), List.append_nil]

/-- The bytes of a text are those of its characters. -/
theorem encode_eq_flatMap (s : String) : encode s = s.toList.flatMap String.utf8EncodeChar := by
  have hbytes : s.toByteArray = (s.toList.flatMap String.utf8EncodeChar).toByteArray := by
    conv_lhs => rw [← String.ofList_toList (s := s), String.toByteArray_ofList, List.utf8Encode]
  rw [encode, String.toUTF8_eq_toByteArray, hbytes, ByteArray.toList, toList_loop,
    List.toList_data_toByteArray]
  rfl

/-- The bytes of a text are read as its characters. -/
theorem symbols_encode (s : String) : symbols (encode s) = ofText s := by
  rw [symbols, encode_eq_flatMap, symbolsAux_flatMap, List.append_nil, List.reverse_reverse, ofText]

end Loyalty.Text.Utf8
