import Loyalty.Proofs.Json.Quotes

/-!
# Loyalty.Proofs.Json.Refusal

Where a reader stands behind a token that it refuses.

A string is refused behind it, or inside of it where half of a pair was read
(`brokenPair?_stop`).  A number is refused behind it, or in front of a digit of
an exponent that is looked at no further (`refusal?_number`).  Inside of the
strings of a balanced input there are no halves of pairs, since there are no
backslashes (`refusal?_inside`).
-/

namespace Loyalty.Json

open Text Text.Utf8

variable {s : Symbol} {input rest : List Symbol}

/-! ## strings -/

/-- From an input on, a string goes on up to what is left. -/
def EndsString (input rest : List Symbol) : Prop :=
  ∃ pending acc held, stringAux pending acc input = some (held, rest)

namespace EndsString

theorem balanced (h : EndsString input rest) : balanced true input = balanced false rest := by
  obtain ⟨pending, acc, held, h⟩ := h
  exact balanced_stringAux h

theorem eq_of_quote (h : EndsString (some '"' :: input) rest) : input = rest := by
  obtain ⟨pending, acc, held, h⟩ := h
  cases h
  rfl

theorem of_codeUnit {a b c d : Symbol}
    (h : EndsString (some '\\' :: some 'u' :: a :: b :: c :: d :: input) rest) :
    EndsString input rest := by
  obtain ⟨pending, acc, held, h⟩ := h
  rw [stringAux] at h
  split at h
  · cases h
  · split at h
    · exact ⟨_, _, _, h⟩
    · split at h
      · split at h <;> exact ⟨_, _, _, h⟩
      · exact ⟨_, _, _, h⟩

theorem of_escape (h : EndsString (some '\\' :: s :: input) rest)
    (hs : ∀ a b c d rest, s = some 'u' → input = a :: b :: c :: d :: rest → False) :
    EndsString input rest := by
  obtain ⟨pending, acc, held, h⟩ := h
  cases s with
  | none => cases h
  | some c =>
      rw [stringAux] at h
      · split at h
        · exact ⟨_, _, _, h⟩
        · cases h
      · exact fun _ _ _ _ _ hinput hc => hs _ _ _ _ _ (congrArg some hc) hinput

theorem of_cons (h : EndsString (s :: input) rest) (hs : IsPlain s) : EndsString input rest := by
  obtain ⟨pending, acc, held, h⟩ := h
  cases s with
  | none => exact ⟨_, _, _, h⟩
  | some c =>
      rw [IsPlain, ne_eq, ne_eq, Option.some.injEq, Option.some.injEq] at hs
      rw [stringAux] at h
      · split at h
        · cases h
        · exact ⟨_, _, _, h⟩
      · exact hs.1
      · exact fun _ _ _ _ _ _ hc => hs.2 hc
      · exact fun _ _ _ hc => hs.2 hc
      · exact hs.2

/-- A backslash at the end escapes nothing. -/
theorem ne_backslash (h : EndsString [s] rest) : s ≠ some '\\' := by
  rintro rfl
  obtain ⟨pending, acc, held, h⟩ := h
  cases h

end EndsString

/-- Where half of a pair makes a string no text, reading stands behind the string, or inside of
it. -/
theorem brokenPair?_stop {stop : List Symbol} (h : EndsString input rest)
    (hstop : brokenPair? input = some stop) :
    stop = rest ∨ balanced true stop = balanced false rest := by
  fun_induction brokenPair? input with
  -- A second half alone.
  | case4 => cases hstop; exact .inr h.of_codeUnit.balanced
  -- A first half, and another escape behind it.
  | case5 _ _ _ _ _ _ _ _ _ _ _ _ _ _ ih => exact ih h.of_codeUnit.of_codeUnit hstop
  | case6 => cases hstop; exact .inr h.of_codeUnit.of_codeUnit.balanced
  | case7 _ _ _ _ _ _ _ _ _ _ hnot =>
      cases hstop; exact .inr (h.of_codeUnit.of_escape hnot).balanced
  -- A first half, and a character behind it, which may be the closing quote.
  | case8 _ _ _ _ _ _ _ _ c tail _ hsingle _ =>
      cases hstop
      have hc := h.of_codeUnit
      by_cases hquote : c = '"'
      · subst hquote
        exact .inl hc.eq_of_quote
      · refine .inr (hc.of_cons (isPlain_some ⟨hquote, ?_⟩)).balanced
        rintro rfl
        cases stop with
        | nil => exact hc.ne_backslash rfl
        | cons head tail => exact hsingle _ _ rfl rfl
  | case9 => cases hstop; exact .inr h.of_codeUnit.balanced
  | case10 => cases hstop; exact .inr h.of_codeUnit.balanced
  -- No half.
  | case12 _ _ _ _ _ _ _ _ _ ih => exact ih h.of_codeUnit hstop
  | case13 _ _ hnot ih => exact ih (h.of_escape hnot) hstop
  | case14 s tail hquote _ hbackslash ih =>
      refine ih (h.of_cons ⟨hquote, ?_⟩) hstop
      rintro rfl
      cases tail with
      | nil => exact h.ne_backslash rfl
      | cons head tail => exact hbackslash _ _ rfl rfl
  | _ => cases hstop

/-! ## numbers -/

/-- A digit is next. -/
def DigitNext (input : List Symbol) : Prop := ∃ c rest, c.isDigit = true ∧ input = some c :: rest

theorem dropDigits_cons {c : Char} (h : c.isDigit = true) :
    dropDigits (some c :: input) = dropDigits input := by
  rw [dropDigits, List.dropWhile_cons_of_pos (by simpa using h)]
  rfl

/-- Where an exponent is looked at no further, a digit of it is next, or what follows it. -/
theorem behindExcess_cases (value : Nat) (input : List Symbol) :
    behindExcess value input = dropDigits input ∨ DigitNext (behindExcess value input) := by
  fun_induction behindExcess value input with
  | case1 value c rest hc next hnext =>
      rw [dropDigits_cons hc]
      by_cases hdigit : DigitNext rest
      · exact .inr hdigit
      · refine .inl ?_
        cases rest with
        | nil => rfl
        | cons s rest =>
            rw [dropDigits, List.dropWhile_cons_of_neg]
            intro hs
            obtain ⟨d, rfl, hd⟩ := (Option.any_eq_true _ _).mp hs
            exact hdigit ⟨d, rest, hd, rfl⟩
  | case2 value c rest hc next hnext ih => rwa [dropDigits_cons hc]
  | case3 value c rest hc =>
      left
      rw [dropDigits, List.dropWhile_cons_of_neg (by simpa using hc)]
  | case4 value input hnone =>
      left
      cases input with
      | nil => rfl
      | cons s input =>
          cases s with
          | none => rfl
          | some c => exact absurd rfl (hnone c input)

/-- The exponent of a number follows a letter that nothing before it has. -/
theorem exponentPlace_cons {c : Char} (h : c ≠ 'e' ∧ c ≠ 'E') :
    exponentPlace (some c :: rest) = exponentPlace rest := by
  rw [exponentPlace, List.dropWhile_cons_of_pos (by simpa using h)]
  rfl

theorem exponentPlace_letter {c : Char} (hc : c = 'e' ∨ c = 'E')
    (hplus : ∀ tail, rest = some '+' :: tail → False) :
    exponentPlace (some c :: rest) = rest := by
  rw [exponentPlace, List.dropWhile_cons_of_neg (by simpa using fun h => hc.resolve_left h)]
  split
  · next heq =>
      cases heq
      exact (hplus _ rfl).elim
  · next heq => exact (List.cons.inj heq).2.symm
  · next heq => cases heq

theorem exponentPlace_dropDigits : exponentPlace (dropDigits input) = exponentPlace input := by
  induction input with
  | nil => rfl
  | cons s input ih =>
      by_cases hs : s.any Char.isDigit = true
      · obtain ⟨c, rfl, hc⟩ := (Option.any_eq_true _ _).mp hs
        rw [dropDigits_cons hc, ih, exponentPlace_cons]
        constructor <;> rintro rfl <;> contradiction
      · rw [dropDigits, List.dropWhile_cons_of_neg hs]

theorem exponentPlace_fraction? {ds : List Char} (h : fraction? input = some (ds, rest)) :
    exponentPlace input = exponentPlace rest := by
  unfold fraction? at h
  split at h
  · split at h
    · cases h
    · cases h
      rw [exponentPlace_dropDigits]
      exact exponentPlace_cons (by decide)
  · cases h
    rfl

theorem nonpos_of_negative {e : Int} (h : exponentDigits? true input = some (some e, rest)) :
    e ≤ 0 := by
  unfold exponentDigits? at h
  simp only [if_true] at h
  split at h
  · cases h
  · cases h
    omega

/-- A large exponent is followed by what follows its digits. -/
theorem dropDigits_exponentPlace {e : Int} (h : exponent? input = some (some e, rest))
    (he : 0 < e) :
    dropDigits (exponentPlace input) = rest := by
  unfold exponent? at h
  split at h
  · split at h
    · exact absurd (nonpos_of_negative h) he.not_ge
    · exact dropDigits_of_exponentDigits? h
    · next hplus => rw [exponentPlace_letter (.inl rfl) hplus, dropDigits_of_exponentDigits? h]
  · split at h
    · exact absurd (nonpos_of_negative h) he.not_ge
    · exact dropDigits_of_exponentDigits? h
    · next hplus => rw [exponentPlace_letter (.inr rfl) hplus, dropDigits_of_exponentDigits? h]
  · cases h

theorem dropDigits_exponentPlace_unsigned {negative : Bool} {n : Number} {e : Int}
    (h : unsignedNumber? negative input = some (n, rest)) (hn : n.exponent = some e) (he : 0 < e) :
    dropDigits (exponentPlace input) = rest := by
  unfold unsignedNumber? at h
  simp only [Option.bind_eq_bind] at h
  split at h
  · cases h
  · obtain ⟨⟨fraction, r⟩, hf, h⟩ := Option.bind_eq_some_iff.mp h
    obtain ⟨⟨e, r'⟩, he, h⟩ := Option.bind_eq_some_iff.mp h
    cases h
    cases hn
    rw [← exponentPlace_dropDigits, exponentPlace_fraction? hf]
    exact dropDigits_exponentPlace he ‹_›

/-- A number that is refused is refused behind it, or in front of a digit. -/
theorem refusal?_number {n : Number} {stop : List Symbol} (h : Spells input rest (.number n))
    (hstop : refusal? (.number n) input rest = some stop) :
    stop = rest ∨ DigitNext stop := by
  simp only [refusal?] at hstop
  split at hstop
  · cases hstop
  · split at hstop
    · next hlarge =>
        obtain ⟨e, he, hlt⟩ := (Option.any_eq_true _ _).mp hlarge
        have hpos : 0 < e := by
          have hlt := of_decide_eq_true hlt
          rw [maxWrittenExponent] at hlt
          omega
        have hplace : dropDigits (exponentPlace input) = rest := by
          cases h with
          | word hw => cases hw
          | natural hn => exact dropDigits_exponentPlace_unsigned hn he hpos
          | negative hn hinput =>
              rw [hinput, exponentPlace_cons (by decide)]
              exact dropDigits_exponentPlace_unsigned hn he hpos
        cases hstop
        rw [← hplace]
        exact behindExcess_cases 0 _
    · cases hstop
      exact .inl rfl

/-! ## tokens -/

/-- A token that is refused is refused behind it, in front of a digit, or inside of a string. -/
theorem refusal?_cases {t : Token} {stop : List Symbol} (h : Spells input rest t)
    (hstop : refusal? t input rest = some stop) :
    stop = rest ∨ DigitNext stop ∨ balanced true stop = balanced false rest := by
  cases t with
  | number n => exact (refusal?_number h hstop).imp_right .inl
  | string text =>
      cases text with
      | some _ => cases hstop
      | none =>
          obtain ⟨body, held, hbody, rfl⟩ := h.exists_body
          rw [refusal?, List.drop_one, List.tail_cons] at hstop
          cases hbroken : brokenPair? body with
          | none =>
              rw [hbroken] at hstop
              cases hstop
              exact .inl rfl
          | some _ =>
              rw [hbroken] at hstop
              cases hstop
              exact (brokenPair?_stop ⟨_, _, _, hbody⟩ hbroken).imp_right .inr
  | _ => cases hstop

/-- A token that starts inside of a string is refused behind it, or in front of a digit. -/
theorem refusal?_inside {t : Token} {stop : List Symbol} (h : Spells input rest t)
    (hin : balanced true input = true) (hstop : refusal? t input rest = some stop) :
    stop = rest ∨ DigitNext stop := by
  cases t with
  | number n => exact refusal?_number h hstop
  | string text =>
      cases text with
      | some _ => cases hstop
      | none =>
          obtain ⟨body, held, hbody, rfl⟩ := h.exists_body
          rw [refusal?, List.drop_one, List.tail_cons, (balanced_of_stringAux hbody hin).2] at hstop
          cases hstop
          exact .inl rfl
  | _ => cases hstop

end Loyalty.Json
