import Loyalty.Text.Blank
import Mathlib

/-!
# Loyalty.Proofs.Text.Blank

What trimming leaves, told without trimming.

Trimming leaves what stands between two runs of blanks and has no blank at
either end itself (`trimEnd_trimStart_eq_iff`).  Where nothing is left, the runs
are not determined, but together they are the text.
-/

namespace Loyalty.Text

variable {cs mid : List Char}

/-- Blanks only. -/
def IsBlankRun (cs : List Char) : Prop := ∀ c ∈ cs, isBlank c = true

/-- Neither the first character nor the last one is a blank. -/
structure IsTrimmed (cs : List Char) : Prop where
  head : ∀ c ∈ cs.head?, isBlank c = false
  last : ∀ c ∈ cs.getLast?, isBlank c = false

/-- What has no blank in it has none at its ends. -/
theorem IsTrimmed.of_forall (h : ∀ c ∈ cs, isBlank c = false) : IsTrimmed cs where
  head c hc := h c (List.mem_of_mem_head? hc)
  last c hc := h c (List.mem_of_mem_getLast? hc)

theorem trimStart_eq_iff :
    trimStart cs = mid ↔
      ∃ left, cs = left ++ mid ∧ IsBlankRun left ∧ ∀ c ∈ mid.head?, isBlank c = false := by
  constructor
  · rintro rfl
    refine ⟨cs.takeWhile isBlank, List.takeWhile_append_dropWhile.symm,
      fun c hc => List.mem_takeWhile_imp hc, ?_⟩
    intro c hc
    have hhead := List.head?_dropWhile_not isBlank cs
    rw [trimStart, Option.mem_def] at hc
    rwa [hc] at hhead
  · rintro ⟨left, rfl, hleft, hhead⟩
    rw [trimStart, List.dropWhile_append_of_pos hleft]
    cases mid with
    | nil => rfl
    | cons c mid => rw [List.dropWhile_cons_of_neg (by simp [hhead c rfl])]

theorem trimEnd_eq_iff :
    trimEnd cs = mid ↔
      ∃ right, cs = mid ++ right ∧ IsBlankRun right ∧ ∀ c ∈ mid.getLast?, isBlank c = false := by
  have hreverse : trimEnd cs = mid ↔ trimStart cs.reverse = mid.reverse := by
    rw [trimEnd, ← trimStart, List.reverse_eq_iff]
  rw [hreverse, trimStart_eq_iff, List.head?_reverse]
  constructor
  · rintro ⟨left, hcs, hleft, hlast⟩
    refine ⟨left.reverse, ?_, fun c hc => hleft c (List.mem_reverse.mp hc), hlast⟩
    rw [← List.reverse_inj, hcs, List.reverse_append, List.reverse_reverse]
  · rintro ⟨right, rfl, hright, hlast⟩
    exact ⟨right.reverse, List.reverse_append, fun c hc => hright c (List.mem_reverse.mp hc), hlast⟩

/-- Trimming leaves what stands between blanks. -/
theorem trimEnd_trimStart_eq_iff :
    trimEnd (trimStart cs) = mid ↔
      ∃ left right, cs = left ++ mid ++ right ∧ IsBlankRun left ∧ IsBlankRun right ∧
        IsTrimmed mid := by
  constructor
  · intro h
    obtain ⟨left, hcs, hleft, hhead⟩ := trimStart_eq_iff.mp (rfl : trimStart cs = trimStart cs)
    obtain ⟨right, hmid, hright, hlast⟩ := trimEnd_eq_iff.mp h
    rw [hmid] at hcs hhead
    refine ⟨left, right, by rw [hcs, List.append_assoc], hleft, hright,
      fun c hc => hhead c ?_, hlast⟩
    rw [List.head?_append, Option.mem_def.mp hc]
    rfl
  · rintro ⟨left, right, rfl, hleft, hright, hmid⟩
    by_cases hnil : mid = []
    · subst hnil
      rw [trimEnd_eq_nil_iff]
      intro c hc
      have hmem : c ∈ left ++ right := by simpa using (List.dropWhile_sublist isBlank).subset hc
      exact (List.mem_append.mp hmem).elim (hleft c) (hright c)
    · have hstart : trimStart (left ++ mid ++ right) = mid ++ right := by
        refine trimStart_eq_iff.mpr ⟨left, List.append_assoc .., hleft, fun c hc => hmid.head c ?_⟩
        rwa [List.head?_append_of_ne_nil _ hnil] at hc
      rw [hstart]
      exact trimEnd_eq_iff.mpr ⟨right, rfl, hright, hmid.last⟩

theorem trim_eq_iff {s t : String} :
    trim s = t ↔
      ∃ left right, s.toList = left ++ t.toList ++ right ∧ IsBlankRun left ∧ IsBlankRun right ∧
        IsTrimmed t.toList := by
  rw [← trimEnd_trimStart_eq_iff, trim, ← String.toList_inj, String.toList_ofList]

end Loyalty.Text
