import Loyalty.Text.Base64
import Mathlib

/-!
# Loyalty.Proofs.Text.Base64

Bytes and their texts in base 64.

What is written for bytes is read as these bytes in both alphabets
(`decode?_encode`).  In the one that is safe in addresses a text is read as some
bytes exactly when it is what is written for them (`decode?_eq_some_iff`), so no
two texts are read alike, and a text that is read has no points in it.
-/

namespace Loyalty.Text.Base64

/-! ## characters -/

/-- What is written for six bits is read as these. -/
def Alphabet.IsReadable (a : Alphabet) : Prop := ∀ n : Fin 64, a.value? (a.char n) = some n.val

theorem isReadable_standard : standard.IsReadable := by
  unfold Alphabet.IsReadable
  decide

theorem isReadable_urlSafe : urlSafe.IsReadable := by
  unfold Alphabet.IsReadable
  decide

theorem Alphabet.IsReadable.value?_char {a : Alphabet} (ha : a.IsReadable) {n : Nat} (h : n < 64) :
    a.value? (a.char n) = some n :=
  ha ⟨n, h⟩

/-- What holds of the characters of six bits holds of all that are written. -/
theorem forall_char {a : Alphabet} {P : Char → Prop} (h : ∀ n : Fin 64, P (a.char n)) (n : Nat) :
    P (a.char n) := by
  by_cases hn : n < 64
  · exact h ⟨n, hn⟩
  · have hslash : a.char n = a.char (63 : Fin 64) := by
      simp only [Alphabet.char, if_neg (show ¬ n < 26 by omega), if_neg (show ¬ n < 52 by omega),
        if_neg (show ¬ n < 62 by omega), if_neg (show ¬ n = 62 by omega)]
      rfl
    rw [hslash]
    exact h 63

/-- Only ASCII characters stand for six bits. -/
theorem toNat_lt_of_value? {c : Char} {n : Nat} (h : urlSafe.value? c = some n) :
    c.toNat < 128 := by
  have hle : ∀ d : Char, d.toNat < 128 → c ≤ d → c.toNat < 128 :=
    fun d hd hcd => Nat.lt_of_le_of_lt hcd hd
  unfold Alphabet.value? at h
  split at h
  · next hc => exact hle _ (by decide) hc.2
  · split at h
    · next hc => exact hle _ (by decide) hc.2
    · split at h
      · next hc => exact hle _ (by decide) hc.2
      · split at h
        · next hc => rw [hc]; decide
        · split at h
          · next hc => rw [hc]; decide
          · contradiction

/-- A character that stands for six bits is the one that is written for them. -/
theorem char_of_value? {c : Char} {n : Nat} (h : urlSafe.value? c = some n) :
    n < 64 ∧ urlSafe.char n = c := by
  have hall : ∀ k : Fin 128, ∀ n ∈ urlSafe.value? (Char.ofNat k), n < 64 ∧
      urlSafe.char n = Char.ofNat k := by
    decide
  have hc := hall ⟨c.toNat, toNat_lt_of_value? h⟩
  rw [Char.ofNat_toNat] at hc
  exact hc n h

/-! ## texts -/

/-- Bytes written are bytes read. -/
theorem decode?_encode {a : Alphabet} (ha : a.IsReadable) (bytes : List UInt8) :
    decode? a (encode a bytes) = some bytes := by
  have hbyte : ∀ (n : Nat) (b : UInt8), n = b.toNat → UInt8.ofNat n = b := by
    rintro _ b rfl
    exact UInt8.ofNat_toNat
  fun_induction encode a bytes with
  | case1 => rfl
  | case2 x =>
      have hx := x.toNat_lt
      simp only [decode?, ha.value?_char (show x.toNat / 4 < 64 by omega),
        ha.value?_char (show x.toNat % 4 * 16 < 64 by omega), Option.bind_eq_bind, Option.bind_some]
      rw [if_pos (by omega), hbyte _ x (by omega)]
  | case3 x y =>
      have hx := x.toNat_lt
      have hy := y.toNat_lt
      simp only [decode?, ha.value?_char (show x.toNat / 4 < 64 by omega),
        ha.value?_char (show x.toNat % 4 * 16 + y.toNat / 16 < 64 by omega),
        ha.value?_char (show y.toNat % 16 * 4 < 64 by omega), Option.bind_eq_bind, Option.bind_some]
      rw [if_pos (by omega), hbyte _ x (by omega), hbyte _ y (by omega)]
  | case4 x y z rest ih =>
      have hx := x.toNat_lt
      have hy := y.toNat_lt
      have hz := z.toNat_lt
      simp only [decode?, ha.value?_char (show x.toNat / 4 < 64 by omega),
        ha.value?_char (show x.toNat % 4 * 16 + y.toNat / 16 < 64 by omega),
        ha.value?_char (show y.toNat % 16 * 4 + z.toNat / 64 < 64 by omega),
        ha.value?_char (show z.toNat % 64 < 64 by omega), ih, Option.bind_eq_bind, Option.bind_some,
        Option.pure_def]
      rw [hbyte _ x (by omega), hbyte _ y (by omega), hbyte _ z (by omega)]

/-- What is read is what is written for the bytes. -/
theorem eq_encode_of_decode? {cs : List Char} {bytes : List UInt8}
    (h : decode? urlSafe cs = some bytes) :
    cs = encode urlSafe bytes := by
  fun_induction decode? urlSafe cs generalizing bytes with
  | case1 => cases h; rfl
  | case2 => cases h
  | case3 p q =>
      simp only [Option.bind_eq_bind, Option.bind_eq_some_iff] at h
      obtain ⟨m, hm, n, hn, h⟩ := h
      obtain ⟨hm', rfl⟩ := char_of_value? hm
      obtain ⟨hn', rfl⟩ := char_of_value? hn
      split at h
      · cases h
        simp only [encode, UInt8.toNat_ofNat']
        rw [show (m * 4 + n / 16) % 2 ^ 8 / 4 = m by omega,
          show (m * 4 + n / 16) % 2 ^ 8 % 4 * 16 = n by omega]
      · cases h
  | case4 p q r =>
      simp only [Option.bind_eq_bind, Option.bind_eq_some_iff] at h
      obtain ⟨m, hm, n, hn, k, hk, h⟩ := h
      obtain ⟨hm', rfl⟩ := char_of_value? hm
      obtain ⟨hn', rfl⟩ := char_of_value? hn
      obtain ⟨hk', rfl⟩ := char_of_value? hk
      split at h
      · cases h
        simp only [encode, UInt8.toNat_ofNat']
        rw [show (m * 4 + n / 16) % 2 ^ 8 / 4 = m by omega,
          show (m * 4 + n / 16) % 2 ^ 8 % 4 * 16 + (n % 16 * 16 + k / 4) % 2 ^ 8 / 16 = n by omega,
          show (n % 16 * 16 + k / 4) % 2 ^ 8 % 16 * 4 = k by omega]
      · cases h
  | case5 p q r s rest ih =>
      simp only [Option.bind_eq_bind, Option.bind_eq_some_iff, Option.pure_def,
        Option.some.injEq] at h
      obtain ⟨m, hm, n, hn, k, hk, l, hl, more, hmore, rfl⟩ := h
      obtain ⟨hm', rfl⟩ := char_of_value? hm
      obtain ⟨hn', rfl⟩ := char_of_value? hn
      obtain ⟨hk', rfl⟩ := char_of_value? hk
      obtain ⟨hl', rfl⟩ := char_of_value? hl
      rw [encode, ← ih hmore]
      simp only [UInt8.toNat_ofNat']
      rw [show (m * 4 + n / 16) % 2 ^ 8 / 4 = m by omega,
        show (m * 4 + n / 16) % 2 ^ 8 % 4 * 16 + (n % 16 * 16 + k / 4) % 2 ^ 8 / 16 = n by omega,
        show (n % 16 * 16 + k / 4) % 2 ^ 8 % 16 * 4 + (k % 4 * 64 + l) % 2 ^ 8 / 64 = k by omega,
        show (k % 4 * 64 + l) % 2 ^ 8 % 64 = l by omega]

/-- A text is read as bytes exactly when it is what is written for them. -/
theorem decode?_eq_some_iff {cs : List Char} {bytes : List UInt8} :
    decode? urlSafe cs = some bytes ↔ cs = encode urlSafe bytes := by
  constructor
  · exact eq_encode_of_decode?
  · rintro rfl
    exact decode?_encode isReadable_urlSafe bytes

/-- Different bytes are written differently. -/
theorem encode_injective {xs ys : List UInt8} (h : encode urlSafe xs = encode urlSafe ys) :
    xs = ys := by
  have hxs := decode?_encode isReadable_urlSafe xs
  rw [h, decode?_encode isReadable_urlSafe] at hxs
  exact (Option.some.inj hxs).symm

/-- What holds of all characters holds of those that are written. -/
theorem forall_mem_encode {a : Alphabet} {P : Char → Prop} (h : ∀ n : Fin 64, P (a.char n))
    (bytes : List UInt8) :
    ∀ c ∈ encode a bytes, P c := by
  have hchar := forall_char h
  fun_induction encode a bytes with
  | case1 => simp
  | case2 | case3 => simp [hchar]
  | case4 x y z rest ih => simpa [hchar] using ih

/-- No point is written. -/
theorem point_notMem_encode (bytes : List UInt8) : '.' ∉ encode urlSafe bytes := fun hpoint =>
  forall_mem_encode (P := (· ≠ '.')) (by decide) bytes '.' hpoint rfl

/-- Three bytes make four characters, and what is left over makes one more than it is. -/
theorem length_encode (a : Alphabet) (bytes : List UInt8) :
    (encode a bytes).length = (4 * bytes.length + 2) / 3 := by
  fun_induction encode a bytes with
  | case1 => rfl
  | case2 | case3 => simp
  | case4 x y z rest ih =>
      simp only [List.length_cons, ih]
      omega

end Loyalty.Text.Base64
