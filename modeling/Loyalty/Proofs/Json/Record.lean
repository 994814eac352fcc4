import Loyalty.Json.Reader
import Loyalty.Json.Record
import Loyalty.Proofs.Json.Token

/-!
# Loyalty.Proofs.Json.Record

Records of texts written, and the same records read.

The documents of the domain are records whose fields are texts or `null`
(`isSimple`).  The machine that reads values goes on from a token to what
follows it (`run_eq`), so it passes over a written value and delivers it
(`run_simple`), passes over the written fields of an object one after the other
(`run_fields`), and reads a written record as the record (`readPrefix?_record`,
`readSymbols?_record`).  Records and what they consist of are the flat values,
and every one of them is read from its text (`read?_toText`).
-/

namespace Loyalty.Json

open Text Text.Utf8

/-! ## the machine -/

/-- The machine gone on with what is left of an input. -/
def Progress.proceed : Progress → List Symbol → Option (Json × List Symbol)
  | .complete value, rest => some (value, rest)
  | .running s, rest => run s rest

/-- The machine takes a token and goes on. -/
theorem run_eq (s : State) (input : List Symbol) :
    run s input = (Token.split? input).bind fun (t, rest) => (step s t).bind fun p =>
      p.proceed rest := by
  rw [run, Token.split?]
  cases Token.next? input with
  | none => rfl
  | some next =>
      obtain ⟨t, rest⟩ := next
      simp only [Option.map_some, Option.bind_some]
      cases step s t with
      | none => rfl
      | some p => cases p <;> rfl

theorem run_of_split? {s : State} {input rest : List Symbol} {t : Token}
    (h : Token.split? input = some (t, rest)) :
    run s input = (step s t).bind fun p => p.proceed rest := by
  rw [run_eq, h, Option.bind_some]

/-! ## values -/

/-- A text, or `null`. -/
def isSimple : Json → Bool
  | .null | .string (some _) => true
  | _ => false

/-- A written value is passed over and delivered. -/
theorem run_simple {v : Json} (hv : isSimple v = true) (frames : List Frame) (rest : List Symbol) :
    run ⟨frames, .value⟩ (v.toChars.map some ++ rest) = (deliver v frames).proceed rest := by
  match v, hv with
  | .null, _ => rw [toChars, run_of_split? (split?_spelling (t := .null) rfl rest)]; rfl
  | .string (some s), _ => rw [toChars, Option.getD_some, run_of_split? (split?_quoted s rest)]; rfl

/-- A written field is passed over, and its value delivered. -/
theorem run_field {v : Json} (hv : isSimple v = true) (k : String) (frames : List Frame)
    (before : List (Option String × Json)) (rest : List Symbol) :
    run ⟨frames, .key before⟩ ((quoted k).map some ++ some ':' :: (v.toChars.map some ++ rest)) =
      run ⟨.object ((some k, v) :: before) (some k) :: frames, .separator⟩ rest := by
  rw [run_of_split? (split?_quoted k _)]
  change run ⟨frames, .colon before (some k)⟩ _ = _
  rw [run_of_split? (split?_colon _)]
  exact run_simple hv _ rest

/-- Written fields are passed over up to the end of their object, which is delivered. -/
theorem run_fields {fields : List (String × Json)} (hne : fields ≠ [])
    (hv : ∀ f ∈ fields, isSimple f.2 = true) (frames : List Frame)
    (before : List (Option String × Json)) (rest : List Symbol) :
    run ⟨frames, .key before⟩
        ((fieldChars (fields.map fun (k, v) => (some k, v))).map some ++ some '\x7d' :: rest) =
      (deliver (.object (before.reverse ++ fields.map fun (k, v) => (some k, v))) frames).proceed
        rest := by
  induction fields generalizing before with
  | nil => contradiction
  | cons f fields ih =>
      obtain ⟨k, v⟩ := f
      have hfield := run_field (hv _ (List.mem_cons_self ..)) k frames before
      cases fields with
      | nil =>
          have hinput := hfield (some '\x7d' :: rest)
          simp only [List.map_cons, List.map_nil, fieldChars, Option.getD_some, List.map_append,
            List.append_assoc, List.cons_append]
          rw [hinput, run_of_split? (split?_closeObject rest)]
          simp [step]
      | cons g fields =>
          have hmore :=
            ih (by simp) (fun f hf => hv f (List.mem_cons_of_mem _ hf)) ((some k, v) :: before)
          simp only [List.map_cons, fieldChars, Option.getD_some, List.map_append,
            List.append_assoc, List.cons_append] at hmore ⊢
          rw [hfield, run_of_split? (split?_comma _)]
          change run ⟨frames, .key ((some k, v) :: before)⟩ _ = _
          rw [hmore]
          simp

/-- Written fields start with the name of the first one. -/
theorem split?_fieldChars (k : String) (v : Json) (fields : List (Option String × Json))
    (rest : List Symbol) :
    ∃ behind, Token.split? ((fieldChars ((some k, v) :: fields)).map some ++ rest) =
      some (.string (some k), behind) := by
  cases fields with
  | nil =>
      rw [fieldChars, Option.getD_some, List.map_append, List.append_assoc]
      exact ⟨_, split?_quoted k _⟩
  | cons f fields =>
      rw [fieldChars, Option.getD_some, List.append_assoc, List.map_append, List.append_assoc]
      exact ⟨_, split?_quoted k _⟩

/-! ## records -/

/-- A written record is read as the record, whatever follows it. -/
theorem readPrefix?_record {fields : List (String × Json)} (hv : ∀ f ∈ fields, isSimple f.2 = true)
    (rest : List Symbol) :
    readPrefix? ((record fields).toChars.map some ++ rest) = some (record fields, rest) := by
  rw [readPrefix?, record, toChars, List.cons_append, List.map_cons, List.cons_append,
    run_of_split? (split?_openObject _)]
  change run ⟨[], .keyOrEnd⟩ _ = _
  cases fields with
  | nil =>
      rw [List.map_nil, fieldChars, List.nil_append, List.map_singleton, List.singleton_append,
        run_of_split? (split?_closeObject rest)]
      rfl
  | cons f fields =>
      obtain ⟨k, v⟩ := f
      have hfields := run_fields (List.cons_ne_nil (k, v) fields) hv [] [] rest
      obtain ⟨behind, hname⟩ :=
        split?_fieldChars k v (fields.map fun (k, v) => (some k, v)) (some '\x7d' :: rest)
      rw [List.map_append, List.append_assoc, List.map_singleton, List.singleton_append]
      rw [List.map_cons, run_of_split? hname] at hfields ⊢
      exact hfields

/-- A written record is read from its text. -/
theorem readSymbols?_record {fields : List (String × Json)}
    (hv : ∀ f ∈ fields, isSimple f.2 = true) :
    readSymbols? (ofText (record fields).toText) = some (record fields) := by
  have hread := readPrefix?_record hv []
  rw [List.append_nil] at hread
  rw [toText, ofText, String.toList_ofList, readSymbols?, hread]
  rfl

/-! ## flat values -/

/-- A text, `null`, or a record of such values. -/
inductive IsFlat : Json → Prop
  | simple {v : Json} (hv : isSimple v = true) : IsFlat v
  | record {fields : List (String × Json)} (hv : ∀ f ∈ fields, isSimple f.2 = true) :
      IsFlat (.record fields)

/-- A flat value is read from its text. -/
theorem read?_toText {v : Json} (h : IsFlat v) : read? v.toText = some v := by
  cases h with
  | simple hv =>
      have hread := run_simple hv [] []
      rw [List.append_nil] at hread
      rw [read?, toText, ofText, String.toList_ofList, readSymbols?, readPrefix?, hread]
      rfl
  | record hv => exact readSymbols?_record hv

/-- Flat values of one text are one. -/
theorem eq_of_toText_eq {v w : Json} (hv : IsFlat v) (hw : IsFlat w) (h : v.toText = w.toText) :
    v = w := by
  have hread := read?_toText hv
  rw [h, read?_toText hw] at hread
  exact (Option.some.inj hread).symm

end Loyalty.Json
