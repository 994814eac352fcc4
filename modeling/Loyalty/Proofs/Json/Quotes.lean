import Loyalty.Json.Strict
import Loyalty.Proofs.Json.Record

/-!
# Loyalty.Proofs.Json.Quotes

The quotes of an input, and what stands between them.

`Spells` says once what stands in front of an input that starts with a token.
An input that is read to its end is `balanced`: every string in it ends, and
nothing but strings has backslashes.  A reader that starts inside of a string of
such an input stays inside of its strings (`balanced_split?_inside`): its own
strings are what is between them.
-/

namespace Loyalty.Json

open Text Text.Utf8

/-- Whether the strings of an input end before it does, read from inside or outside of a string.
Only a string has backslashes. -/
def balanced : Bool → List Symbol → Bool
  | inside, [] => !inside
  | false, some '"' :: rest => balanced true rest
  | true, some '"' :: rest => balanced false rest
  | false, some '\\' :: _ => false
  | true, some '\\' :: _ :: rest => balanced true rest
  | inside, _ :: rest => balanced inside rest

/-- A symbol that no string starts or ends with, and that escapes nothing. -/
def IsPlain (s : Symbol) : Prop := s ≠ some '"' ∧ s ≠ some '\\'

theorem isPlain_some {c : Char} (h : c ≠ '"' ∧ c ≠ '\\') : IsPlain (some c) := by
  simpa [IsPlain] using h

variable {inside : Bool} {s : Symbol} {input rest : List Symbol}

theorem balanced_cons (h : IsPlain s) : balanced inside (s :: rest) = balanced inside rest := by
  rw [balanced.eq_def]
  split <;> simp_all [IsPlain]

theorem balanced_append {front : List Symbol} (h : ∀ s ∈ front, IsPlain s) :
    balanced inside (front ++ rest) = balanced inside rest := by
  induction front with
  | nil => rfl
  | cons s front ih =>
      rw [List.cons_append, balanced_cons (h s (List.mem_cons_self ..)),
        ih fun s hs => h s (List.mem_cons_of_mem _ hs)]

theorem balanced_dropWhile {p : Symbol → Bool} (hp : ∀ s, p s = true → IsPlain s) :
    balanced inside (input.dropWhile p) = balanced inside input := by
  have htake : ∀ s ∈ input.takeWhile p, IsPlain s := fun s hs => hp s (List.mem_takeWhile_imp hs)
  rw [← balanced_append htake, List.takeWhile_append_dropWhile]

theorem balanced_skipBlanks : balanced inside (skipBlanks input) = balanced inside input := by
  refine balanced_dropWhile fun s hs => ?_
  constructor <;> rintro rfl <;> contradiction

theorem balanced_dropDigits : balanced inside (dropDigits input) = balanced inside input := by
  refine balanced_dropWhile fun s hs => ?_
  constructor <;> rintro rfl <;> contradiction

theorem balanced_fraction? {ds : List Char} (h : fraction? input = some (ds, rest)) :
    balanced inside input = balanced inside rest := by
  unfold fraction? at h
  split at h
  · split at h
    · cases h
    · cases h
      rw [balanced_dropDigits]
      rfl
  · cases h
    rfl

theorem dropDigits_of_exponentDigits? {negative : Bool} {e : Option Int}
    (h : exponentDigits? negative input = some (e, rest)) : dropDigits input = rest := by
  unfold exponentDigits? at h
  dsimp only at h
  split at h
  · cases h
  · cases h
    rfl

theorem balanced_exponentDigits? {negative : Bool} {e : Option Int}
    (h : exponentDigits? negative input = some (e, rest)) :
    balanced inside input = balanced inside rest := by
  rw [← dropDigits_of_exponentDigits? h, balanced_dropDigits]

theorem balanced_exponent? {e : Option Int} (h : exponent? input = some (e, rest)) :
    balanced inside input = balanced inside rest := by
  unfold exponent? at h
  split at h
  · split at h <;> rw [← balanced_exponentDigits? h] <;> rfl
  · split at h <;> rw [← balanced_exponentDigits? h] <;> rfl
  · cases h
    rfl

theorem balanced_unsignedNumber? {negative : Bool} {n : Number}
    (h : unsignedNumber? negative input = some (n, rest)) :
    balanced inside input = balanced inside rest := by
  unfold unsignedNumber? at h
  simp only [Option.bind_eq_bind] at h
  split at h
  · cases h
  · obtain ⟨⟨fraction, r⟩, hf, h⟩ := Option.bind_eq_some_iff.mp h
    obtain ⟨⟨e, r'⟩, he, h⟩ := Option.bind_eq_some_iff.mp h
    cases h
    rw [← balanced_dropDigits, balanced_fraction? hf, balanced_exponent? he]

/-- An escape of a code unit holds no quote. -/
theorem balanced_codeUnit {a b c d : Symbol} {n : Nat} (h : codeUnit? a b c d = some n) :
    balanced true (some '\\' :: some 'u' :: a :: b :: c :: d :: rest) = balanced true rest := by
  have hplain : ∀ {c : Char} {k : Nat}, Hex.value? c = some k → IsPlain (some c) := by
    intro c k hk
    constructor <;> rintro ⟨⟩ <;> contradiction
  simp only [codeUnit?, Hex.number?, Option.bind_eq_bind, List.foldl_cons, List.foldl_nil,
    Option.bind_eq_some_iff, Option.pure_def, Option.some.injEq] at h
  obtain ⟨a, rfl, b, rfl, c, rfl, d, rfl, _, ⟨_, ⟨_, ⟨_, -, _, ha, -⟩, _, hb, -⟩, _, hc, -⟩, _,
    hd, -⟩ := h
  change balanced true (some a :: some b :: some c :: some d :: rest) = _
  rw [balanced_cons (hplain ha), balanced_cons (hplain hb), balanced_cons (hplain hc),
    balanced_cons (hplain hd)]

/-- A string is balanced from inside like what follows it from outside. -/
theorem balanced_stringAux {pending : Option Nat} {acc held : List Symbol}
    (h : stringAux pending acc input = some (held, rest)) :
    balanced true input = balanced false rest := by
  fun_induction stringAux pending acc input with
  | case2 => cases h; rfl
  -- Escapes of a code unit, which is half of a pair or none.
  | case4 _ _ _ _ _ _ _ _ hunit _ ih => rw [balanced_codeUnit hunit, ih h]
  | case5 _ _ _ _ _ _ _ hunit _ _ _ ih => rw [balanced_codeUnit hunit, ih h]
  | case6 _ _ _ _ _ _ _ hunit _ _ ih => rw [balanced_codeUnit hunit, ih h]
  | case7 _ _ _ _ _ _ _ _ hunit _ _ ih => rw [balanced_codeUnit hunit, ih h]
  | case8 _ _ _ _ _ _ _ ih => exact ih h
  | case12 _ _ c rest hquote _ _ hbackslash _ ih =>
      rw [balanced_cons (isPlain_some ⟨hquote, hbackslash⟩), ih h]
  | case13 _ _ _ ih => exact ih h
  | _ => cases h

/-- Where an input is balanced from outside, a string up to its next quote has no escapes. -/
theorem balanced_of_stringAux {pending : Option Nat} {acc held : List Symbol}
    (h : stringAux pending acc input = some (held, rest)) (hout : balanced false input = true) :
    balanced true rest = true ∧ brokenPair? input = none := by
  fun_induction stringAux pending acc input with
  | case1 => cases h
  | case2 => cases h; exact ⟨hout, rfl⟩
  | case12 _ _ c rest hquote _ _ hbackslash _ ih =>
      rw [balanced_cons (isPlain_some ⟨hquote, hbackslash⟩)] at hout
      obtain ⟨hrest, hnone⟩ := ih h hout
      refine ⟨hrest, ?_⟩
      rw [← hnone]
      conv_lhs => rw [brokenPair?.eq_def]
      split <;> simp_all
  | case13 _ _ _ ih => exact ih h hout
  | _ => first | cases h | cases hout

/-! ## tokens -/

/-- An input is a token and what follows it. -/
inductive Spells (input rest : List Symbol) : Token → Prop
  | word {t : Token} {w : List Char} (h : t.spelling? = some w)
      (hinput : input = w.map some ++ rest) :
    Spells input rest t
  | string {body held : List Symbol} (h : stringAux none [] body = some (held, rest))
    (hinput : input = some '"' :: body) : Spells input rest (.string (toText? held.reverse))
  | natural {n : Number} (h : unsignedNumber? false input = some (n, rest)) :
      Spells input rest (.number n)
  | negative {body : List Symbol} {n : Number} (h : unsignedNumber? true body = some (n, rest))
    (hinput : input = some '-' :: body) : Spells input rest (.number n)

theorem spells_of_frontSplit? {t : Token} (h : frontSplit? input = some (t, rest)) :
    Spells input rest t := by
  obtain ⟨⟨t', behind⟩, hfront, heq⟩ := Option.map_eq_some_iff.mp h
  cases heq
  unfold front? at hfront
  split at hfront
  case h_10 =>
    split at hfront
    · next hstring => cases hfront; exact .string hstring rfl
    · cases hfront
  case h_11 =>
    split at hfront
    · next hnumber => cases hfront; exact .negative hnumber rfl
    · cases hfront
  case h_12 =>
    split at hfront
    · next hnumber => cases hfront; exact .natural hnumber
    · cases hfront
  all_goals
    cases hfront
    exact .word rfl rfl

theorem Spells.exists_body {text : Option String} (h : Spells input rest (.string text)) :
    ∃ body held, stringAux none [] body = some (held, rest) ∧ input = some '"' :: body := by
  cases h with
  | word hw => cases hw
  | string hbody hinput => exact ⟨_, _, hbody, hinput⟩

/-- The next token stands behind the blanks. -/
theorem spells_of_split? {t : Token} (h : Token.split? input = some (t, rest)) :
    Spells (skipBlanks input) rest t :=
  spells_of_frontSplit? (split?_eq input ▸ h)

theorem isPlain_spelling {t : Token} {w : List Char} (h : t.spelling? = some w) :
    ∀ s ∈ w.map some, IsPlain s := by
  unfold Token.spelling? at h
  split at h <;> cases h <;> simp [IsPlain]

/-- A token leaves an input balanced. -/
theorem balanced_split? {t : Token} (h : Token.split? input = some (t, rest)) :
    balanced false input = balanced false rest := by
  rw [← balanced_skipBlanks]
  cases spells_of_split? h with
  | word hw hinput => rw [hinput, balanced_append (isPlain_spelling hw)]
  | string hbody hinput => rw [hinput, ← balanced_stringAux hbody]; rfl
  | natural hn => exact balanced_unsignedNumber? hn
  | negative hn hinput => rw [hinput, ← balanced_unsignedNumber? hn]; rfl

/-- A token that starts inside of a string of a balanced input ends inside of one. -/
theorem balanced_split?_inside {t : Token} (h : Token.split? input = some (t, rest))
    (hin : balanced true input = true) :
    balanced true rest = true := by
  rw [← balanced_skipBlanks] at hin
  cases spells_of_split? h with
  | word hw hinput => rwa [hinput, balanced_append (isPlain_spelling hw)] at hin
  | string hbody hinput =>
      rw [hinput] at hin
      exact (balanced_of_stringAux hbody hin).1
  | natural hn => rwa [balanced_unsignedNumber? hn] at hin
  | negative hn hinput =>
      rw [hinput] at hin
      rwa [← balanced_unsignedNumber? hn]

end Loyalty.Json
