import Loyalty.Uuid
import Mathlib

/-!
# Loyalty.Proofs.Uuid

Identifiers written, and the same identifiers read.

Hexadecimal digits write a number up to the power of sixteen that their width
gives (`number?_digits`), and 32 of them are enough for 128 bits.  Hyphens are
no digits, so they can be left out again (`filter_hyphenate`).
-/

namespace Loyalty

namespace Text.Hex

/-! ## digits -/

theorem digits_succ (width n : Nat) :
    digits (width + 1) n = digits width (n / 16) ++ [digit n] := by
  have hdigit : ∀ i ∈ List.range width, digit (n / 16 ^ (width - i)) =
      digit (n / 16 / 16 ^ (width - 1 - i)) := by
    intro i hi
    have hlt := List.mem_range.mp hi
    rw [Nat.div_div_eq_div_mul, ← Nat.pow_succ', show (width - 1 - i).succ = width - i by omega]
  simp only [digits, List.range_succ, List.map_append, List.map_singleton, Nat.add_sub_cancel,
    Nat.sub_self]
  rw [List.map_congr_left hdigit]
  simp

theorem length_digits (width n : Nat) : (digits width n).length = width := by simp [digits]

theorem digit_mod (n : Nat) : digit n = digit (n % 16) := by simp [digit]

/-- Digits write the part of a number that they have room for. -/
theorem number?_digits (width n : Nat) : number? (digits width n) = some (n % 16 ^ width) := by
  induction width generalizing n with
  | zero => simp [number?, digits, Nat.mod_one]
  | succ width ih =>
      have hdigit := value?_digit (Nat.mod_lt n (show 0 < 16 by omega))
      have hmod := Nat.mod_mul (x := n) (a := 16) (b := 16 ^ width)
      rw [← digit_mod] at hdigit
      simp only [number?] at ih ⊢
      rw [digits_succ, List.foldl_append, ih, List.foldl_cons, List.foldl_nil, hdigit]
      simp only [Option.bind_eq_bind, Option.bind_some, Option.pure_def, Option.some.injEq,
        Nat.pow_succ', hmod]
      omega

/-- Neither hyphens nor braces are digits. -/
theorem isAlphanum_digit (n : Nat) : (digit n).isAlphanum = true := by
  have hall : ∀ n : Fin 16, (digit n).isAlphanum = true := by decide
  have hlt := Nat.mod_lt n (show 0 < 16 by omega)
  rw [digit_mod]
  exact hall ⟨n % 16, hlt⟩

theorem isAlphanum_of_mem_digits {width n : Nat} {c : Char} (h : c ∈ digits width n) :
    c.isAlphanum = true := by
  obtain ⟨i, -, rfl⟩ := List.mem_map.mp h
  exact isAlphanum_digit _

end Text.Hex

namespace Uuid

open Text

/-! ## hyphens -/

theorem parts_eq (cs : List Char) :
    cs.take 8 ++
      ((cs.drop 8).take 4 ++ ((cs.drop 12).take 4 ++ ((cs.drop 16).take 4 ++ cs.drop 20))) =
      cs := by
  have hpart : ∀ n, (cs.drop n).take 4 ++ cs.drop (n + 4) = cs.drop n := by
    intro n
    rw [← List.drop_drop, List.take_append_drop]
  rw [hpart 16, hpart 12, hpart 8, List.take_append_drop]

/-- Without its hyphens a hyphenated text is what it was. -/
theorem filter_hyphenate {cs : List Char} (h : '-' ∉ cs) :
    (hyphenate cs).filter (· ≠ '-') = cs := by
  have hself : cs.filter (· ≠ '-') = cs :=
    List.filter_eq_self.mpr fun c hc => by simpa using ne_of_mem_of_not_mem hc h
  conv_rhs => rw [← hself, ← parts_eq cs]
  simp [hyphenate, List.filter_append]

theorem length_hyphenate {cs : List Char} (h : cs.length = 32) : (hyphenate cs).length = 36 := by
  simp [hyphenate, h]

theorem getElem?_hyphenate {cs : List Char} (h : cs.length = 32) {i : Nat}
    (hi : i ∈ [8, 13, 18, 23]) :
    (hyphenate cs)[i]? = some '-' := by
  fin_cases hi <;> simp [hyphenate, h]

theorem head?_hyphenate {cs : List Char} (h : cs.length = 32) :
    (hyphenate cs).head? = cs.head? := by
  obtain ⟨c, cs, rfl⟩ := List.exists_cons_of_length_pos (show 0 < cs.length by omega)
  rfl

/-- A written identifier is one with hyphens. -/
theorem ofHyphenated?_toText (id : Uuid) :
    ofHyphenated? (hyphenate (Hex.digits 32 id.bits.toNat)) = some id := by
  have hlength := Hex.length_digits 32 id.bits.toNat
  have hhyphen : '-' ∉ Hex.digits 32 id.bits.toNat := fun hmem =>
    absurd (Hex.isAlphanum_of_mem_digits hmem) (by decide)
  have hall : [8, 13, 18, 23].all
      (fun i => (hyphenate (Hex.digits 32 id.bits.toNat))[i]? = some '-') = true :=
    List.all_eq_true.mpr fun i hi => decide_eq_true (getElem?_hyphenate hlength hi)
  have hbits : id.bits.toNat % 16 ^ 32 = id.bits.toNat := Nat.mod_eq_of_lt id.bits.isLt
  rw [ofHyphenated?, if_pos ⟨length_hyphenate hlength, hall⟩, filter_hyphenate hhyphen, ofDigits?,
    if_pos hlength, Hex.number?_digits, Option.map_some, hbits, BitVec.ofNat_toNat,
    BitVec.setWidth_eq]

/-- An identifier written is the identifier read. -/
theorem ofText?_toText (id : Uuid) : ofText? id.toText = some id := by
  have hlength := Hex.length_digits 32 id.bits.toNat
  have hread := ofHyphenated?_toText id
  have hhead := head?_hyphenate hlength
  have hlength' := length_hyphenate hlength
  simp only [ofText?, toText, String.toList_ofList]
  split
  · next rest hbrace =>
      -- The first character is a digit and no brace.
      rw [hbrace, List.head?_cons] at hhead
      exact absurd (Hex.isAlphanum_of_mem_digits (List.mem_of_mem_head? hhead.symm)) (by decide)
  · rw [if_neg (by omega), if_neg (by omega), hread]

end Uuid

end Loyalty
