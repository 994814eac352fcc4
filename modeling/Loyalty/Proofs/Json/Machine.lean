import Loyalty.Proofs.Json.Refusal

/-!
# Loyalty.Proofs.Json.Machine

The machine that reads values, inside of what is open and up to the end.

What the machine does, it does inside of whatever is open (`run_within`).  Where
it finishes, its input is balanced.  A reader that gave up what it refused
stands somewhere in the same input; what it can go on with there are a comma or
the end of an object (`Resumes`), and `giveUp` passes over nothing else but the
ends of arrays.
-/

namespace Loyalty.Json

open Text Text.Utf8

variable {inner outer frames : List Frame} {input rest : List Symbol} {v : Json} {t : Token}

/-! ## inside of what is open -/

/-- A state inside of arrays and objects that are open. -/
def State.within (outer : List Frame) (s : State) : State := ⟨s.frames ++ outer, s.expected⟩

/-- What is reached inside of arrays and objects that are open. -/
def Progress.within (outer : List Frame) : Progress → Progress
  | .complete v => deliver v outer
  | .running s => .running (s.within outer)

theorem deliver_append (v : Json) (inner outer : List Frame) :
    deliver v (inner ++ outer) = (deliver v inner).within outer := by
  cases inner with
  | nil => rfl
  | cons frame inner => cases frame <;> rfl

theorem startValue_append (inner outer : List Frame) (t : Token) :
    startValue (inner ++ outer) t = (startValue inner t).map (·.within outer) := by
  cases t <;> simp [startValue, deliver_append, Progress.within, State.within]

/-- What a token does, it does inside of whatever is open. -/
theorem step_within {s : State} {p : Progress} (h : step s t = some p) (outer : List Frame) :
    step (s.within outer) t = some (p.within outer) := by
  obtain ⟨inner, expected⟩ := s
  have hstart : ∀ p, startValue inner t = some p →
      startValue (inner ++ outer) t = some (p.within outer) := by
    intro p hp
    rw [startValue_append, hp, Option.map_some]
  have hdeliver :
      ∀ v inner, some (deliver v (inner ++ outer)) = some ((deliver v inner).within outer) :=
    fun v inner => congrArg some (deliver_append v inner outer)
  cases expected with
  | value => exact hstart p h
  | itemOrEnd =>
      cases t
      case closeArray =>
        obtain _ | ⟨_ | _, inner⟩ := inner <;> cases h
        exact hdeliver _ _
      all_goals exact hstart p h
  | keyOrEnd =>
      cases t <;> cases h
      · exact hdeliver _ _
      · rfl
  | key | colon =>
      cases t <;> cases h
      rfl
  | separator =>
      obtain _ | ⟨_ | _, inner⟩ := inner
      all_goals
        cases t <;> cases h
        all_goals first | rfl | exact hdeliver _ _

/-- What a machine does, it does inside of whatever is open. -/
theorem run_within {s : State} (h : run s input = some (v, rest)) (outer : List Frame) :
    run (s.within outer) input = (deliver v outer).proceed rest := by
  fun_induction run s input with
  | case1 => cases h
  | case2 => cases h
  | case3 s input t behind ht v hv =>
      cases h
      rw [run_of_split? (split?_of_next? ht), step_within hv]
      rfl
  | case4 s input t behind ht s' hv ih =>
      rw [run_of_split? (split?_of_next? ht), step_within hv]
      exact ih h

/-! ## reading to the end -/

/-- What is reached is gone on with to a value, with nothing but blanks behind it. -/
def Progress.Finishes (p : Progress) (input : List Symbol) (v : Json) : Prop :=
  ∃ rest, p.proceed input = some (v, rest) ∧ (skipBlanks rest).isEmpty = true

/-- A machine that finishes takes the next token. -/
theorem finishes_running {s : State} (h : (Progress.running s).Finishes input v) :
    ∃ t rest p, Token.split? input = some (t, rest) ∧ step s t = some p ∧ p.Finishes rest v := by
  obtain ⟨behind, hrun, hblank⟩ := h
  rw [Progress.proceed, run_eq] at hrun
  obtain ⟨⟨t, rest⟩, hsplit, hrun⟩ := Option.bind_eq_some_iff.mp hrun
  obtain ⟨p, hstep, hrun⟩ := Option.bind_eq_some_iff.mp hrun
  exact ⟨t, rest, p, hsplit, hstep, behind, hrun, hblank⟩

/-- A machine that finishes takes the token that is known to be next. -/
theorem finishes_step {s : State} (ht : Token.split? input = some (t, rest))
    (h : (Progress.running s).Finishes input v) : ∃ p, step s t = some p ∧ p.Finishes rest v := by
  obtain ⟨_, _, p, hsplit, hstep, hp⟩ := finishes_running h
  cases ht.symm.trans hsplit
  exact ⟨p, hstep, hp⟩

/-- What starts a value ends nothing. -/
theorem startValue_ne {p : Progress} (h : startValue frames t = some p) :
    t ≠ .closeArray ∧ t ≠ .closeObject ∧ t ≠ .comma := by
  refine ⟨?_, ?_, ?_⟩ <;> rintro rfl <;> cases h

/-- What starts a value and opens nothing is the value. -/
theorem exists_deliver {p : Progress} (hclosing : t.closing? = none)
    (h : startValue frames t = some p) :
    ∃ u, p = deliver u frames := by
  cases t with
  | openArray | openObject => cases hclosing
  | null | bool | number | string =>
      cases h
      exact ⟨_, rfl⟩
  | closeArray | closeObject | comma | colon => cases h

theorem step_itemOrEnd (h : t ≠ .closeArray) :
    step ⟨frames, .itemOrEnd⟩ t = startValue frames t := by
  cases t
  case closeArray => contradiction
  all_goals rfl

/-- Behind the start of an array there is a value, or the end of it. -/
theorem finishes_itemOrEnd {items : List Json} {frames : List Frame}
    (h : (Progress.running ⟨.array items :: frames, .itemOrEnd⟩).Finishes input v) :
    (∃ rest, Token.split? input = some (.closeArray, rest) ∧
      (deliver (.array items.reverse) frames).Finishes rest v) ∨
      ∃ t rest, Token.split? input = some (t, rest) ∧ t ≠ .closeArray ∧ t ≠ .closeObject ∧
        t ≠ .comma := by
  obtain ⟨t, rest, p, hsplit, hstep, hp⟩ := finishes_running h
  by_cases ht : t = .closeArray
  · subst ht
    cases hstep
    exact .inl ⟨rest, hsplit, hp⟩
  · rw [step_itemOrEnd ht] at hstep
    exact .inr ⟨t, rest, hsplit, startValue_ne hstep⟩

/-- Behind the start of an object there is the name of a field, or the end of it. -/
theorem finishes_keyOrEnd {frames : List Frame}
    (h : (Progress.running ⟨frames, .keyOrEnd⟩).Finishes input v) :
    (∃ rest, Token.split? input = some (.closeObject, rest) ∧
      (deliver (.object []) frames).Finishes rest v) ∨
      ∃ key rest, Token.split? input = some (.string key, rest) ∧
        (Progress.running ⟨frames, .colon [] key⟩).Finishes rest v := by
  obtain ⟨t, rest, p, hsplit, hstep, hp⟩ := finishes_running h
  cases t <;> cases hstep
  · exact .inl ⟨rest, hsplit, hp⟩
  · exact .inr ⟨_, rest, hsplit, hp⟩

/-- Inside of an array there is a comma next, or the end of it. -/
theorem finishes_array {items : List Json} {frames : List Frame}
    (h : (Progress.running ⟨.array items :: frames, .separator⟩).Finishes input v) :
    (∃ rest, Token.split? input = some (.closeArray, rest) ∧
      (deliver (.array items.reverse) frames).Finishes rest v) ∨
      ∃ rest, Token.split? input = some (.comma, rest) ∧
        (Progress.running ⟨.array items :: frames, .value⟩).Finishes rest v := by
  obtain ⟨t, rest, p, hsplit, hstep, hp⟩ := finishes_running h
  cases t <;> cases hstep
  · exact .inl ⟨rest, hsplit, hp⟩
  · exact .inr ⟨rest, hsplit, hp⟩

/-- Inside of an object there is a comma next, or the end of it. -/
theorem finishes_object {fields : List (Option String × Json)} {key : Option String}
    {frames : List Frame}
    (h : (Progress.running ⟨.object fields key :: frames, .separator⟩).Finishes input v) :
    (∃ rest, Token.split? input = some (.closeObject, rest) ∧
        (deliver (.object fields.reverse) frames).Finishes rest v) ∨
      ∃ rest, Token.split? input = some (.comma, rest) ∧
        (Progress.running ⟨frames, .key fields⟩).Finishes rest v := by
  obtain ⟨t, rest, p, hsplit, hstep, hp⟩ := finishes_running h
  cases t <;> cases hstep
  · exact .inl ⟨rest, hsplit, hp⟩
  · exact .inr ⟨rest, hsplit, hp⟩

/-- Behind a comma of an object there is the name of a field. -/
theorem finishes_key {fields : List (Option String × Json)} {frames : List Frame}
    (h : (Progress.running ⟨frames, .key fields⟩).Finishes input v) :
    ∃ key rest, Token.split? input = some (.string key, rest) ∧
      (Progress.running ⟨frames, .colon fields key⟩).Finishes rest v := by
  obtain ⟨t, rest, p, hsplit, hstep, hp⟩ := finishes_running h
  cases t <;> cases hstep
  exact ⟨_, rest, hsplit, hp⟩

/-- Behind the name of a field there is a colon. -/
theorem finishes_colon {fields : List (Option String × Json)} {key : Option String}
    {frames : List Frame} (h : (Progress.running ⟨frames, .colon fields key⟩).Finishes input v) :
    ∃ rest, Token.split? input = some (.colon, rest) ∧
      (Progress.running ⟨.object fields key :: frames, .value⟩).Finishes rest v := by
  obtain ⟨t, rest, p, hsplit, hstep, hp⟩ := finishes_running h
  cases t <;> cases hstep
  exact ⟨rest, hsplit, hp⟩

/-- An input that is read to its end is balanced. -/
theorem Progress.Finishes.balanced {p : Progress} (h : p.Finishes input v) :
    balanced false input = true := by
  induction hn : input.length using Nat.strong_induction_on generalizing p input with
  | _ n ih =>
    cases p with
    | complete value =>
        obtain ⟨rest, hproceed, hblank⟩ := h
        cases hproceed
        rw [← balanced_skipBlanks, List.isEmpty_iff.mp hblank]
        rfl
    | running s =>
        obtain ⟨t, rest, p, hsplit, -, hrest⟩ := finishes_running h
        rw [balanced_split? hsplit]
        exact ih _ (hn ▸ split?_length hsplit) hrest rfl

/-! ## what is given up -/

theorem skipBlanks_skipBlanks : skipBlanks (skipBlanks input) = skipBlanks input :=
  List.dropWhile_idempotent ..

theorem split?_skipBlanks : Token.split? (skipBlanks input) = Token.split? input := by
  rw [split?_eq, skipBlanks_skipBlanks, split?_eq]

/-- What a token is spelled with stands behind the blanks. -/
theorem skipBlanks_of_split? (h : Token.split? input = some (t, rest)) {w : List Char}
    (hw : t.spelling? = some w) :
    skipBlanks input = w.map some ++ rest := by
  cases spells_of_split? h with
  | word hw' hinput => rw [hinput, Option.some.inj (hw.symm.trans hw')]
  | string | natural | negative => cases hw

theorem giveUp_closeArray (h : Token.split? input = some (.closeArray, rest))
    (brackets : List Bracket) :
    giveUp (.square :: brackets) input = giveUp brackets rest := by
  rw [giveUp.eq_def]
  simp [skipBlanks_of_split? h rfl]

theorem giveUp_closeObject (h : Token.split? input = some (.closeObject, rest))
    (brackets : List Bracket) :
    giveUp (.curly :: brackets) input = giveUp brackets rest := by
  rw [giveUp.eq_def]
  simp [skipBlanks_of_split? h rfl]

theorem giveUp_comma (h : Token.split? input = some (.comma, rest)) (brackets : List Bracket) :
    giveUp (.square :: brackets) input = giveUp brackets rest := by
  rw [giveUp.eq_def]
  simp [skipBlanks_of_split? h rfl]

/-- Nothing is passed over but what closes an array or object, and commas. -/
theorem split?_giveUp (h : Token.split? input = some (t, rest))
    (ht : t ≠ .closeArray ∧ t ≠ .closeObject ∧ t ≠ .comma) (brackets : List Bracket) :
    Token.split? (giveUp brackets input) = some (t, rest) := by
  induction brackets generalizing input with
  | nil => exact h
  | cons bracket brackets ih =>
      rw [← split?_skipBlanks] at h
      unfold giveUp
      split
      · next heq => 
        rw [heq, split?_closeArray] at h
        cases h
        exact absurd rfl ht.1
      · next heq => 
        rw [heq, split?_comma] at h
        cases h
        exact absurd rfl ht.2.2
      · next heq => 
        rw [heq, split?_closeObject] at h
        cases h
        exact absurd rfl ht.2.1
      · exact ih h

/-- An object passes over no comma. -/
theorem giveUp_comma_cases (h : Token.split? input = some (.comma, rest))
    (brackets : List Bracket) :
    Token.split? (giveUp brackets input) = some (.comma, rest) ∨
      ∃ more, giveUp brackets input = giveUp more rest := by
  induction brackets generalizing input with
  | nil => exact .inl h
  | cons bracket brackets ih =>
      cases bracket with
      | square => exact .inr ⟨brackets, giveUp_comma h brackets⟩
      | curly =>
          have hcurly : giveUp (.curly :: brackets) input = giveUp brackets (skipBlanks input) := by
            rw [giveUp.eq_def]
            simp [skipBlanks_of_split? h rfl]
          rw [hcurly]
          exact ih (split?_skipBlanks.trans h)

theorem balanced_giveUp {inside : Bool} (brackets : List Bracket) :
    balanced inside (giveUp brackets input) = balanced inside input := by
  induction brackets generalizing input with
  | nil => rfl
  | cons bracket brackets ih =>
      rw [← @balanced_skipBlanks inside input]
      unfold giveUp
      split
      case h_4 => rw [ih]
      all_goals
        next heq =>
        rw [ih, heq, balanced_cons (isPlain_some (by decide))]

theorem DigitNext.skipBlanks_eq (h : DigitNext input) : skipBlanks input = input := by
  obtain ⟨c, rest, hc, rfl⟩ := h
  refine List.dropWhile_cons_of_neg fun hblank => ?_
  have hc' : isBlank c = true := by simpa using hblank
  simp only [isBlank, Bool.or_eq_true, decide_eq_true_eq] at hc'
  rcases hc' with ((rfl | rfl) | rfl) | rfl <;> contradiction

/-- No digit is passed over. -/
theorem DigitNext.giveUp_eq (h : DigitNext input) (brackets : List Bracket) :
    giveUp brackets input = input := by
  induction brackets with
  | nil => rfl
  | cons bracket brackets ih =>
      obtain ⟨c, rest, hc, rfl⟩ := id h
      unfold giveUp
      rw [h.skipBlanks_eq]
      split
      case h_4 => exact ih
      all_goals
        next heq =>
        cases heq
        contradiction

/-! ## going on -/

/-- A comma or the end of an object is next. -/
def Resumes (input : List Symbol) : Prop :=
  ∃ t rest, Token.split? input = some (t, rest) ∧ (t = .comma ∨ t = .closeObject)

theorem DigitNext.not_resumes (h : DigitNext input) : ¬ Resumes input := by
  rintro ⟨t, rest, hsplit, rfl | rfl⟩ <;>
  · have hinput := skipBlanks_of_split? hsplit rfl
    obtain ⟨c, tail, hc, rfl⟩ := id h
    rw [h.skipBlanks_eq] at hinput
    cases hinput
    contradiction

/-- Where another token is next, nothing is gone on with when something is given up. -/
theorem not_resumes_giveUp (h : Token.split? input = some (t, rest))
    (ht : t ≠ .closeArray ∧ t ≠ .closeObject ∧ t ≠ .comma) (brackets : List Bracket) :
    ¬ Resumes (giveUp brackets input) := by
  rintro ⟨t', rest', hsplit, hresumes⟩
  rw [split?_giveUp h ht] at hsplit
  cases hsplit
  rcases hresumes with rfl | rfl
  · exact ht.2.2 rfl
  · exact ht.2.1 rfl

/-! ## inside of strings -/

/-- A value that starts inside of a string ends inside of one. -/
theorem balanced_run_inside {s : State} (h : run s input = some (v, rest))
    (hin : balanced true input = true) :
    balanced true rest = true := by
  fun_induction run s input with
  | case1 => cases h
  | case2 => cases h
  | case3 s input t behind ht v hv =>
      cases h
      exact balanced_split?_inside (split?_of_next? ht) hin
  | case4 s input t behind ht s' hv ih =>
      exact ih h (balanced_split?_inside (split?_of_next? ht) hin)

/-- What is given up from inside of a string is left inside of one, or nothing is gone on with. -/
theorem balanced_giveUp_refusal {behind stop : List Symbol} {brackets : List Bracket}
    (ht : Token.split? input = some (t, behind)) (hin : balanced true input = true)
    (hstop : refusal? t (skipBlanks input) behind = some stop)
    (hresumes : Resumes (giveUp brackets stop)) :
    balanced true (giveUp brackets stop) = true := by
  rw [balanced_giveUp]
  rcases refusal?_inside (spells_of_split? ht)
    (balanced_skipBlanks.trans hin) hstop with rfl | hdigit
  · exact balanced_split?_inside ht hin
  · rw [hdigit.giveUp_eq] at hresumes
    exact (hdigit.not_resumes hresumes).elim

theorem balanced_runStrict_inside {room : Nat} {s : State} {o : Option Json}
    (h : runStrict room s input = some (o, rest)) (hin : balanced true input = true)
    (hresumes : Resumes rest) : balanced true rest = true := by
  fun_induction runStrict room s input with
  | case1 => cases h
  | case2 => cases h
  | case3 s input t behind ht hroom stop hstop =>
      cases h
      exact balanced_giveUp_refusal (split?_of_next? ht) hin hstop hresumes
  | case4 => cases h
  | case5 s input t behind ht hroom hstop v hv =>
      cases h
      exact balanced_split?_inside (split?_of_next? ht) hin
  | case6 s input t behind ht hroom hstop s' hv ih =>
      exact ih h (balanced_split?_inside (split?_of_next? ht) hin)

theorem balanced_passToken?_inside (h : passToken? input = some rest)
    (hin : balanced true input = true) (hresumes : Resumes rest) : balanced true rest = true := by
  unfold passToken? at h
  split at h
  · cases h
  · next t behind ht =>
      split at h
      · cases h
      · cases hstop : refusal? t (skipBlanks input) behind.val with
        | none =>
            rw [hstop] at h
            cases h
            rw [Option.getD_none, balanced_giveUp]
            exact balanced_split?_inside (split?_of_next? ht) hin
        | some stop =>
            rw [hstop] at h
            cases h
            exact balanced_giveUp_refusal (split?_of_next? ht) hin hstop hresumes

end Loyalty.Json
