/-!
# Loyalty.Text.Blank

The blank characters of Unicode (property `White_Space`) and trimming.
Everything a user types by hand — order numbers, logins, addresses — is
trimmed of these, not only of the ASCII blanks, so the set is written out as a
table here once and every reader of user text goes through it.
-/

namespace Loyalty.Text

/-- The code points with the property `White_Space`. -/
def blankRanges : List (Nat × Nat) :=
  [(0x09, 0x0D), (0x20, 0x20), (0x85, 0x85), (0xA0, 0xA0), (0x1680, 0x1680), (0x2000, 0x200A),
   (0x2028, 0x2029), (0x202F, 0x202F), (0x205F, 0x205F), (0x3000, 0x3000)]

/-- A character with the property `White_Space`. -/
def isBlank (c : Char) : Bool :=
  blankRanges.any fun (low, high) => low ≤ c.toNat && c.toNat ≤ high

/-- No digit is a blank. -/
theorem isBlank_of_isDigit {c : Char} (h : c.isDigit = true) : isBlank c = false := by
  have hc : 48 ≤ c.toNat ∧ c.toNat ≤ 57 := by
    simpa [Char.isDigit, UInt32.le_iff_toNat_le] using h
  simp [isBlank, blankRanges]
  omega

/-- The characters without the blanks they start with. -/
def trimStart (cs : List Char) : List Char := cs.dropWhile isBlank

/-- The characters without the blanks they end with. -/
def trimEnd (cs : List Char) : List Char := (cs.reverse.dropWhile isBlank).reverse

/-- The text without the blanks at either end. -/
def trim (s : String) : String := String.ofList (trimEnd (trimStart s.toList))

/-- A text of blanks only, the empty text included. -/
def isBlankText (s : String) : Bool := s.toList.all isBlank

/-! ## what trimming leaves -/

/-- Nothing is left of blanks alone. -/
theorem trimStart_eq_nil_iff (cs : List Char) : trimStart cs = [] ↔ ∀ c ∈ cs, isBlank c = true := by
  induction cs with
  | nil => simp [trimStart]
  | cons c cs ih =>
    cases h : isBlank c <;> simp_all [trimStart]

/-- Nothing is left of blanks alone. -/
theorem trimEnd_eq_nil_iff (cs : List Char) : trimEnd cs = [] ↔ ∀ c ∈ cs, isBlank c = true := by
  rw [trimEnd, List.reverse_eq_nil_iff]
  exact (trimStart_eq_nil_iff cs.reverse).trans (by simp)

/-- Trimming leaves nothing exactly of a blank text. -/
theorem trim_eq_empty_iff (s : String) : trim s = "" ↔ isBlankText s = true := by
  have h : trim s = "" ↔ trimEnd (trimStart s.toList) = [] := by
    rw [trim, ← String.toList_inj]
    simp
  rw [h, trimEnd_eq_nil_iff, isBlankText, List.all_eq_true]
  constructor
  · intro hall c hc
    by_cases hcb : c ∈ trimStart s.toList
    · exact hall c hcb
    · have hsplit := @List.takeWhile_append_dropWhile _ isBlank s.toList
      rw [← hsplit, List.mem_append] at hc
      rcases hc with hc | hc
      · exact List.all_eq_true.1 List.all_takeWhile c hc
      · exact absurd hc hcb
  · intro hall c hc
    exact hall c ((List.dropWhile_sublist isBlank).subset hc)

/-- Where there is no blank, all is left. -/
theorem trimStart_eq_self {cs : List Char} (h : ∀ c ∈ cs, isBlank c = false) :
    trimStart cs = cs := by
  cases cs with
  | nil => rfl
  | cons c cs => rw [trimStart, List.dropWhile_cons_of_neg (by simp [h])]

/-- Trimming leaves a text without blanks as it is. -/
theorem trim_eq_self {s : String} (h : ∀ c ∈ s.toList, isBlank c = false) : trim s = s := by
  have hend : trimEnd s.toList = s.toList := by
    have hreverse : ∀ c ∈ s.toList.reverse, isBlank c = false :=
      fun c hc => h c (List.mem_reverse.1 hc)
    rw [trimEnd, ← trimStart, trimStart_eq_self hreverse, List.reverse_reverse]
  rw [trim, trimStart_eq_self h, hend, String.ofList_toList]

end Loyalty.Text
