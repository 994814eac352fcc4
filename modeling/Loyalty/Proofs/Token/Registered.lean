import Loyalty.Proofs.Json.Record
import Loyalty.Token.Registered

/-!
# Loyalty.Proofs.Token.Registered

The claims of a payload passed over.

`passClaims?_eq` is one round of the reader, from the name of a claim to the
comma or the end behind its value.  The value of a written claim is passed over
whole, whether its name is registered or not (`passClaim?_simple`), so a written
payload names an audience exactly when it has a claim that does
(`audienceNamed?_record`).
-/

namespace Loyalty.Token

open Json Text Text.Utf8

/-- The claims of a payload from a name on. -/
theorem passClaims?_eq (seen : List String) (input : List Symbol) :
    passClaims? seen input =
      match Json.Token.split? input with
      | some (.string (some name), behindName) =>
        match Json.Token.split? behindName with
        | some (.colon, behindColon) =>
          if registered.contains name && seen.contains name then none
          else (passClaim? name behindColon).bind fun (named, rest) =>
            match Json.Token.split? rest with
            | some (.comma, behindComma) =>
                (passClaims? (name :: seen) behindComma).map (named || ·)
            | some (.closeObject, behind) =>
                if (skipBlanks behind).isEmpty then some named else none
            | _ => none
        | _ => none
      | _ => none := by
  rw [passClaims?]
  simp only [Json.Token.split?]
  cases Json.Token.next? input with
  | none => rfl
  | some front =>
      obtain ⟨t, behindName⟩ := front
      cases t
      case string name =>
        cases name with
        | none => rfl
        | some name =>
            simp only [Option.map_some]
            cases Json.Token.next? behindName.val with
            | none => rfl
            | some front =>
                obtain ⟨t, behindColon⟩ := front
                cases t
                case colon =>
                  simp only [Option.map_some]
                  split
                  · rfl
                  · split
                    · next h => rw [h, Option.bind_none]
                    · next named rest h =>
                        rw [h, Option.bind_some]
                        simp only
                        cases Json.Token.next? rest with
                        | none => rfl
                        | some front =>
                            obtain ⟨t, behind⟩ := front
                            cases t <;> rfl
                all_goals rfl
      all_goals rfl

/-! ## written claims -/

/-- A written value is a token of its own, which nobody refuses. -/
theorem split?_simple {v : Json} (hv : isSimple v = true) (rest : List Symbol) :
    ∃ t, Json.Token.split? (v.toChars.map some ++ rest) = some (t, rest) ∧ t.closing? = none ∧
      (∀ input behind, refusal? t input behind = none) ∧
        ∀ frames, startValue frames t = some (deliver v frames) := by
  match v, hv with
  | .null, _ =>
      exact ⟨.null, by rw [toChars]; exact split?_spelling rfl rest, rfl, fun _ _ => rfl,
        fun _ => rfl⟩
  | .string (some s), _ =>
      exact ⟨.string (some s), by rw [toChars]; exact split?_quoted s rest, rfl, fun _ _ => rfl,
        fun _ => rfl⟩

/-- A written value is passed over, whatever its claim is called. -/
theorem passClaim?_simple {v : Json} (hv : isSimple v = true) (name : String) (rest : List Symbol) :
    passClaim? name (v.toChars.map some ++ rest) =
      some (decide (name = "aud") && namesAudience v, rest) := by
  obtain ⟨t, ht, hclosing, hrefusal, hstart⟩ := split?_simple hv rest
  obtain ⟨behind, hnext, hbehind⟩ := exists_next? ht
  unfold passClaim?
  split
  · next htime =>
      have hname : name ≠ "aud" := by
        rintro rfl
        contradiction
      simp [passToken?, hnext, hstart, hclosing, hrefusal, giveUp, hname, hbehind]
  · split
    · have hstep : step ⟨[], .value⟩ t = some (.complete v) := hstart []
      simp [readStrict?, runStrict, hnext, hclosing, hrefusal, hstep, hbehind]
    · next hother =>
        have hname : name ≠ "aud" := by
          rintro rfl
          exact hother (by decide)
        have hread : readPrefix? (v.toChars.map some ++ rest) = some (v, rest) :=
          run_simple hv [] rest
        simp [hread, hname]

/-- A written claim of a name that was not seen is passed over. -/
theorem passClaims?_field {v : Json} (hv : isSimple v = true) {k : String} {seen : List String}
    (hk : k ∉ seen) (rest : List Symbol) :
    passClaims? seen ((quoted k).map some ++ some ':' :: (v.toChars.map some ++ rest)) =
      match Json.Token.split? rest with
      | some (.comma, behindComma) =>
        (passClaims? (k :: seen) behindComma).map ((decide (k = "aud") && namesAudience v) || ·)
      | some (.closeObject, behind) =>
        if (skipBlanks behind).isEmpty then some (decide (k = "aud") && namesAudience v) else none
      | _ => none := by
  have hfirst : (registered.contains k && seen.contains k) = false := by simp [hk]
  rw [passClaims?_eq, split?_quoted]
  simp only
  rw [split?_colon]
  simp only [hfirst, Bool.false_eq_true, if_false]
  rw [passClaim?_simple hv, Option.bind_some]

/-- Written claims name an audience when one of them does. -/
theorem passClaims?_fields {fields : List (String × Json)} (hne : fields ≠ [])
    (hv : ∀ f ∈ fields, isSimple f.2 = true) {seen : List String}
    (hseen : ∀ f ∈ fields, f.1 ∉ seen) (hnames : (fields.map Prod.fst).Nodup) :
    passClaims? seen
      ((fieldChars (fields.map fun (k, v) => (some k, v))).map some ++ [some '\x7d']) =
      some (fields.any fun f => decide (f.1 = "aud") && namesAudience f.2) := by
  induction fields generalizing seen with
  | nil => contradiction
  | cons f fields ih =>
      obtain ⟨k, v⟩ := f
      have hfield :=
        passClaims?_field (hv _ (List.mem_cons_self ..)) (hseen _ (List.mem_cons_self ..))
      rw [List.map_cons, List.nodup_cons] at hnames
      cases fields with
      | nil =>
          simp only [List.map_cons, List.map_nil, fieldChars, Option.getD_some, List.map_append,
            List.append_assoc, List.cons_append]
          rw [hfield, split?_closeObject]
          simp [skipBlanks]
      | cons g fields =>
          have hunseen : ∀ f ∈ g :: fields, f.1 ∉ k :: seen := by
            intro f hf
            have hne : f.1 ≠ k := fun heq => hnames.1 (List.mem_map.mpr ⟨f, hf, heq⟩)
            simp [hne, hseen f (List.mem_cons_of_mem _ hf)]
          have hmore := ih (by simp) (fun f hf => hv f (List.mem_cons_of_mem _ hf)) hunseen hnames.2
          simp only [List.map_cons, fieldChars, Option.getD_some, List.map_append,
            List.append_assoc, List.cons_append] at hmore ⊢
          rw [hfield, split?_comma]
          simp only
          rw [hmore, Option.map_some]
          simp only [List.any_cons]

/-- A written payload names an audience when one of its claims does. -/
theorem audienceNamed?_record {fields : List (String × Json)} (hne : fields ≠ [])
    (hv : ∀ f ∈ fields, isSimple f.2 = true) (hnames : (fields.map Prod.fst).Nodup) :
    audienceNamed? (ofText (record fields).toText) =
      some (fields.any fun f => decide (f.1 = "aud") && namesAudience f.2) := by
  have hinput : ofText (record fields).toText =
      some '\x7b' ::
        ((fieldChars (fields.map fun (k, v) => (some k, v))).map some ++ [some '\x7d']) := by
    simp [ofText, toText, record, toChars]
  obtain ⟨behind, hnext, hbehind⟩ := exists_next? (split?_openObject _)
  rw [audienceNamed?, hinput, hnext]
  simp only [hbehind]
  exact passClaims?_fields hne hv (by simp) hnames

end Loyalty.Token
