import Loyalty.Proofs.Json.Machine
import Loyalty.Proofs.Token.Registered

/-!
# Loyalty.Proofs.Token.Audience

The audience of a payload is not overlooked.

A payload is read twice: as a value, by the machine, and claim by claim, by a
reader that goes on somewhere behind a part that it refuses.  Where that reader
can go on, the machine stands behind the same claim, inside of another object,
or inside of a string (`follows_passClaim?`).  From inside of a string the
reader finds no end (`passClaims?_inside`), and from inside of another object
none that is the machine's, so claims that it passes over are those of the value
(`passClaims?_sound`), and the audience that they name is seen
(`audienceNamed?_sound`).
-/

namespace Loyalty.Token

open Json Text Text.Utf8

variable {input rest : List Symbol} {v : Json} {outer : List Frame}
  {fields : List (Option String × Json)} {key : Option String}

/-! ## values that name no audience -/

theorem asText?_eq_none {u : Json} (h : namesAudience u = false) : u.asText? = none := by
  cases u with
  | string s =>
      cases s with
      | none => rfl
      | some s => cases h
  | _ => rfl

/-- A list with something that names no audience names none. -/
theorem namesAudience_array {items : List Json} {u : Json} (hmem : u ∈ items)
    (h : namesAudience u = false) :
    namesAudience (.array items) = false := by
  have hnone : items.mapM asText? = none := by
    induction items with
    | nil => cases hmem
    | cons item items ih =>
        rw [List.mapM_cons]
        rcases List.mem_cons.mp hmem with rfl | hmem
        · rw [asText?_eq_none h]
          rfl
        · rw [ih hmem]
          cases item.asText? <;> rfl
  simp [namesAudience, texts?, hnone]

/-! ## where reading stands behind a claim -/

/-- The machine stands behind the value of a claim, which names an audience only if it is said to;
or it is inside of another object. -/
def Follows (fields : List (Option String × Json)) (key : Option String) (outer : List Frame)
    (named : Bool) (rest : List Symbol) (v : Json) : Prop :=
  ∃ fields' key' outer',
    (Progress.running ⟨.object fields' key' :: outer', .separator⟩).Finishes rest v ∧
    (outer' ≠ [] ∨ outer' = outer ∧
      ∃ w, fields' = (key, w) :: fields ∧
        (key = some "aud" → namesAudience w = true → named = true))

/-- The machine stands behind a value that is said to be. -/
theorem Follows.of_deliver {w : Json} {named : Bool}
    (h : (deliver w (.object fields key :: outer)).Finishes rest v)
    (hw : key = some "aud" → namesAudience w = true → named = true) :
    Follows fields key outer named rest v :=
  ⟨_, _, _, h, .inr ⟨rfl, w, rfl, hw⟩⟩

theorem Follows.imp {named named' : Bool} (h : Follows fields key outer named rest v)
    (himp : key = some "aud" → named = true → named' = true) :
    Follows fields key outer named' rest v := by
  obtain ⟨fields', key', outer', hfinishes, hwhere⟩ := h
  refine ⟨fields', key', outer', hfinishes, hwhere.imp_right fun ⟨houter, w, hw, hnames⟩ => ?_⟩
  exact ⟨houter, w, hw, fun haud hnamed => himp haud (hnames haud hnamed)⟩

/-- Where the same is next, the same is read. -/
theorem finishes_congr {s : State} {input' : List Symbol}
    (h : (Progress.running s).Finishes input v) (hsame : Token.split? input' = Token.split? input) :
    (Progress.running s).Finishes input' v := by
  obtain ⟨behind, hrun, hblank⟩ := h
  refine ⟨behind, ?_, hblank⟩
  rw [Progress.proceed, run_eq] at hrun ⊢
  rw [hsame, hrun]

/-- Where a part that was refused is given up, the machine has closed what was open around it, or it
is inside of another object. -/
theorem follows_giveUp {u : Json} {inner : List Frame} {named : Bool}
    (h : (deliver u (inner ++ .object fields key :: outer)).Finishes input v)
    (hu : namesAudience u = false)
    (hresumes : Resumes (giveUp (State.brackets ⟨inner, .separator⟩) input)) :
    Follows fields key outer named (giveUp (State.brackets ⟨inner, .separator⟩) input) v := by
  induction inner generalizing u input with
  | nil => exact .of_deliver h fun _ hnames => absurd hnames (by simp [hu])
  | cons frame inner ih =>
      cases frame with
      | array items =>
          change Resumes (giveUp (.square :: State.brackets ⟨inner, .separator⟩) input) at hresumes
          change Follows fields key outer named
            (giveUp (.square :: State.brackets ⟨inner, .separator⟩) input) v
          rcases finishes_array h with ⟨behind, hsplit, hp⟩ | ⟨behind, hsplit, hp⟩
          · rw [giveUp_closeArray hsplit] at hresumes ⊢
            exact ih hp (namesAudience_array (by simp) hu) hresumes
          · -- a value is next, which nothing is gone on with
            obtain ⟨t, _, _, hvalue, hstep, -⟩ := finishes_running hp
            rw [giveUp_comma hsplit] at hresumes
            exact (not_resumes_giveUp hvalue (startValue_ne hstep) _ hresumes).elim
      | object fields' key' =>
          change Resumes (giveUp (.curly :: State.brackets ⟨inner, .separator⟩) input) at hresumes
          change Follows fields key outer named
            (giveUp (.curly :: State.brackets ⟨inner, .separator⟩) input) v
          rcases finishes_object h with ⟨behind, hsplit, hp⟩ | ⟨behind, hsplit, hp⟩
          · rw [giveUp_closeObject hsplit] at hresumes ⊢
            exact ih hp rfl hresumes
          · rcases giveUp_comma_cases hsplit
              (.curly :: State.brackets ⟨inner, .separator⟩) with hsame | ⟨more, hmore⟩
            · exact ⟨_, _, _, finishes_congr h (hsame.trans hsplit.symm), .inl (by simp)⟩
            · -- the name of a field is next, which nothing is gone on with
              obtain ⟨_, _, hname, -⟩ := finishes_key hp
              rw [hmore] at hresumes
              exact (not_resumes_giveUp hname (by simp) _ hresumes).elim

/-! ## the values of claims passed over -/

/-- Behind a token that is refused, the machine has delivered what names no audience, or is at a
colon. -/
theorem follows_refused {s : State} {t : Json.Token} {p : Progress} {front : List Symbol}
    {named : Bool} (hstop : refusal? t front rest = some input)
    (hstep : step (s.within (.object fields key :: outer)) t = some p) (hp : p.Finishes input v)
    (hresumes : Resumes (giveUp s.brackets input)) :
    Follows fields key outer named (giveUp s.brackets input) v := by
  obtain ⟨inner, expected⟩ := s
  cases t with
  | number n =>
      cases expected <;> cases hstep
      · exact follows_giveUp hp rfl hresumes
      · exact follows_giveUp hp rfl hresumes
  | string text =>
      cases text with
      | some _ => cases hstop
      | none =>
          cases expected <;> cases hstep
          · exact follows_giveUp hp rfl hresumes
          · exact follows_giveUp hp rfl hresumes
          · obtain ⟨_, hcolon, -⟩ := finishes_colon hp
            exact (not_resumes_giveUp hcolon (by simp) _ hresumes).elim
          · obtain ⟨_, hcolon, -⟩ := finishes_colon hp
            exact (not_resumes_giveUp hcolon (by simp) _ hresumes).elim
  | _ => cases hstop

/-- Where a strict reader stands, the machine stands too, or it is inside of a string. -/
theorem follows_runStrict {room : Nat} {s : State} {o : Option Json}
    (hstrict : runStrict room s input = some (o, rest))
    (h : (Progress.running (s.within (.object fields key :: outer))).Finishes input v)
    (hresumes : Resumes rest) :
    Follows fields key outer (o.any namesAudience) rest v ∨ balanced true rest = true := by
  fun_induction runStrict room s input with
  | case1 => cases hstrict
  | case2 => cases hstrict
  | case3 s input t behind ht hroom stop hstop =>
      cases hstrict
      obtain ⟨p, hstep, hp⟩ := finishes_step (split?_of_next? ht) h
      rcases refusal?_cases
        (spells_of_split? (split?_of_next? ht)) hstop with rfl | hdigit | hbalanced
      · exact .inl (follows_refused hstop hstep hp hresumes)
      · rw [hdigit.giveUp_eq] at hresumes
        exact (hdigit.not_resumes hresumes).elim
      · right
        rw [balanced_giveUp, hbalanced, hp.balanced]
  | case4 => cases hstrict
  | case5 s input t behind ht hroom hstop value hv =>
      cases hstrict
      obtain ⟨p, hstep, hp⟩ := finishes_step (split?_of_next? ht) h
      rw [step_within hv] at hstep
      cases hstep
      exact .inl (.of_deliver hp fun _ hnames => hnames)
  | case6 s input t behind ht hroom hstop s' hv ih =>
      obtain ⟨p, hstep, hp⟩ := finishes_step (split?_of_next? ht) h
      rw [step_within hv] at hstep
      cases hstep
      exact ih hstrict hp

/-- A token looked at alone: what it opens is given up at once. -/
theorem follows_passToken? (hpass : passToken? input = some rest) {named : Bool}
    (hkey : key ≠ some "aud")
    (h : (Progress.running ⟨.object fields key :: outer, .value⟩).Finishes input v)
    (hresumes : Resumes rest) :
    Follows fields key outer named rest v ∨ balanced true rest = true := by
  have hdeliver : ∀ {w rest}, (deliver w (.object fields key :: outer)).Finishes rest v →
      Follows fields key outer named rest v := fun h => .of_deliver h fun haud => absurd haud hkey
  obtain ⟨t, behind, p, hsplit, hstep, hp⟩ := finishes_running h
  obtain ⟨behind, hnext, rfl⟩ := exists_next? hsplit
  simp only [passToken?, hnext, Option.ite_none_left_eq_some, Option.some.injEq] at hpass
  obtain ⟨-, rfl⟩ := hpass
  cases hclosing : t.closing? with
  | none =>
      obtain ⟨u, rfl⟩ := exists_deliver hclosing hstep
      cases hstop : refusal? t (skipBlanks input) behind.val with
      | none => exact .inl (hdeliver hp)
      | some stop =>
          rw [hclosing, hstop] at hresumes
          rcases refusal?_cases (spells_of_split? hsplit) hstop with rfl | hdigit | hbalanced
          · exact .inl (hdeliver hp)
          · exact (hdigit.not_resumes hresumes).elim
          · exact .inr (hbalanced.trans hp.balanced)
  | some bracket =>
      left
      cases t <;> cases hclosing <;> cases hstep
      · change Resumes (giveUp [.square] behind.val) at hresumes
        change Follows fields key outer named (giveUp [.square] behind.val) v
        rcases finishes_itemOrEnd hp with ⟨rest, hsplit, hp⟩ | ⟨t, rest, hsplit, ht⟩
        · rw [giveUp_closeArray hsplit]
          exact hdeliver hp
        · exact (not_resumes_giveUp hsplit ht _ hresumes).elim
      · change Resumes (giveUp [.curly] behind.val) at hresumes
        change Follows fields key outer named (giveUp [.curly] behind.val) v
        rcases finishes_keyOrEnd hp with ⟨rest, hsplit, hp⟩ | ⟨_, rest, hsplit, -⟩
        · rw [giveUp_closeObject hsplit]
          exact hdeliver hp
        · exact (not_resumes_giveUp hsplit (by simp) _ hresumes).elim

/-- Where the reader of claims stands behind a value, the machine stands too, or it is inside of a
string. -/
theorem follows_passClaim? {name : String} {named : Bool}
    (hpass : passClaim? name input = some (named, rest))
    (h : (Progress.running ⟨.object fields (some name) :: outer, .value⟩).Finishes input v)
    (hresumes : Resumes rest) :
    Follows fields (some name) outer named rest v ∨ balanced true rest = true := by
  unfold passClaim? at hpass
  split at hpass
  · next htime =>
      obtain ⟨_, hpass, heq⟩ := Option.map_eq_some_iff.mp hpass
      cases heq
      refine follows_passToken? hpass ?_ h hresumes
      rintro ⟨⟩
      contradiction
  · split at hpass
    · obtain ⟨⟨o, _⟩, hpass, heq⟩ := Option.map_eq_some_iff.mp hpass
      cases heq
      refine (follows_runStrict hpass h hresumes).imp_left fun hfollows =>
        hfollows.imp fun haud hnames => ?_
      simp [Option.some.inj haud, hnames]
    · next hother =>
      obtain ⟨⟨w, _⟩, hpass, heq⟩ := Option.map_eq_some_iff.mp hpass
      cases heq
      obtain ⟨behind, hrun, hblank⟩ := h
      rw [Progress.proceed] at hrun
      have hsame := run_within hpass (.object fields (some name) :: outer)
      refine .inl (.of_deliver ⟨behind, hsame.symm.trans hrun, hblank⟩ ?_)
      rintro ⟨⟩
      exact absurd rfl hother

/-! ## claims passed over -/

/-- The claims of a payload from what follows the value of one of them. -/
theorem passClaims?_eq_some {seen : List String} {named : Bool}
    (h : passClaims? seen input = some named) :
    ∃ name behindName behindColon first rest,
      Json.Token.split? input = some (.string (some name), behindName) ∧
      Json.Token.split? behindName = some (.colon, behindColon) ∧
        passClaim? name behindColon = some (first, rest) ∧
      ((∃ behind more, Json.Token.split? rest = some (.comma, behind) ∧
          passClaims? (name :: seen) behind = some more ∧ named = (first || more)) ∨
        ∃ behind, Json.Token.split? rest = some (.closeObject, behind) ∧
          (skipBlanks behind).isEmpty = true ∧
          named = first) := by
  rw [passClaims?_eq] at h
  split at h
  · next name behindName hname =>
      split at h
      · next behindColon hcolon =>
          split at h
          · cases h
          · obtain ⟨⟨first, rest⟩, hpass, h⟩ := Option.bind_eq_some_iff.mp h
            refine ⟨name, behindName, behindColon, first, rest, hname, hcolon, hpass, ?_⟩
            simp only at h
            split at h
            · next behind hcomma =>
                obtain ⟨more, hmore, rfl⟩ := Option.map_eq_some_iff.mp h
                exact .inl ⟨behind, more, hcomma, hmore, rfl⟩
            · next behind hclose =>
                split at h
                · next hblank =>
                    cases h
                    exact .inr ⟨behind, hclose, hblank, rfl⟩
                · cases h
            · cases h
      · cases h
  · cases h

theorem balanced_of_isEmpty {inside : Bool} (h : (skipBlanks input).isEmpty = true) :
    balanced inside input = !inside := by
  rw [← balanced_skipBlanks, List.isEmpty_iff.mp h, balanced]

theorem balanced_passClaim?_inside {name : String} {named : Bool}
    (h : passClaim? name input = some (named, rest)) (hin : balanced true input = true)
    (hresumes : Resumes rest) : balanced true rest = true := by
  unfold passClaim? at h
  split at h
  · obtain ⟨_, hpass, heq⟩ := Option.map_eq_some_iff.mp h
    cases heq
    exact balanced_passToken?_inside hpass hin hresumes
  · split at h
    · obtain ⟨_, hpass, heq⟩ := Option.map_eq_some_iff.mp h
      cases heq
      exact balanced_runStrict_inside hpass hin hresumes
    · obtain ⟨_, hpass, heq⟩ := Option.map_eq_some_iff.mp h
      cases heq
      exact balanced_run_inside hpass hin

/-- No claims are passed over from inside of a string: the input would have to end there. -/
theorem passClaims?_inside {seen : List String} (hin : balanced true input = true) :
    passClaims? seen input = none := by
  induction hn : input.length using Nat.strong_induction_on generalizing seen input with
  | _ n ih =>
    by_contra hsome
    obtain ⟨named, hpass⟩ := Option.ne_none_iff_exists'.mp hsome
    obtain ⟨name, behindName, behindColon, first, rest, hname, hcolon, hclaim, hrest⟩ :=
      passClaims?_eq_some hpass
    have hin' := balanced_split?_inside hcolon (balanced_split?_inside hname hin)
    rcases hrest with ⟨behind, more, hcomma, hmore, -⟩ | ⟨behind, hclose, hblank, -⟩
    · have hbehind := balanced_split?_inside hcomma
        (balanced_passClaim?_inside hclaim hin' ⟨_, _, hcomma, .inl rfl⟩)
      have hlength : behind.length < n := by
        have := split?_length hname
        have := split?_length hcolon
        have := passClaim?_length hclaim
        have := split?_length hcomma
        omega
      rw [ih _ hlength hbehind rfl] at hmore
      cases hmore
    · have hbehind := balanced_split?_inside hclose
        (balanced_passClaim?_inside hclaim hin' ⟨_, _, hclose, .inr rfl⟩)
      rw [balanced_of_isEmpty hblank] at hbehind
      cases hbehind

/-- Nothing but blanks is no part of a value. -/
theorem not_finishes_running {s : State} (hblank : (skipBlanks input).isEmpty = true) :
    ¬ (Progress.running s).Finishes input v := by
  intro h
  obtain ⟨t, rest, p, hsplit, -⟩ := finishes_running h
  rw [split?_eq, List.isEmpty_iff.mp hblank] at hsplit
  cases hsplit

/-- One claim passed over: where the reader of claims goes on, the machine stands behind the claim,
or inside of another object. -/
theorem exists_follows {seen : List String} {named : Bool}
    (hpass : passClaims? seen input = some named)
    (h : (Progress.running ⟨outer, .key fields⟩).Finishes input v) :
    ∃ name first rest, rest.length < input.length ∧ Follows fields (some name) outer first rest v ∧
      ((∃ behind more, Json.Token.split? rest = some (.comma, behind) ∧
          passClaims? (name :: seen) behind = some more ∧ named = (first || more)) ∨
        ∃ behind, Json.Token.split? rest = some (.closeObject, behind) ∧
          (skipBlanks behind).isEmpty = true ∧
          named = first) := by
  obtain ⟨name, behindName, behindColon, first, rest, hname, hcolon, hclaim, hrest⟩ :=
    passClaims?_eq_some hpass
  obtain ⟨_, _, hname', hp⟩ := finishes_key h
  cases hname.symm.trans hname'
  obtain ⟨_, hcolon', hp⟩ := finishes_colon hp
  cases hcolon.symm.trans hcolon'
  have hresumes : Resumes rest := by
    rcases hrest with ⟨_, _, hcomma, -⟩ | ⟨_, hclose, -⟩
    · exact ⟨_, _, hcomma, .inl rfl⟩
    · exact ⟨_, _, hclose, .inr rfl⟩
  have hlength : rest.length < input.length :=
    ((passClaim?_length hclaim).trans_lt (split?_length hcolon)).trans (split?_length hname)
  refine ⟨name, first, rest, hlength,
    (follows_passClaim? hclaim hp hresumes).resolve_right fun hin => ?_, hrest⟩
  rcases hrest with ⟨behind, more, hcomma, hmore, -⟩ | ⟨behind, hclose, hblank, -⟩
  · rw [passClaims?_inside (balanced_split?_inside hcomma hin)] at hmore
    cases hmore
  · have hbehind := balanced_split?_inside hclose hin
    rw [balanced_of_isEmpty hblank] at hbehind
    cases hbehind

/-- Where the claims of a payload are passed over, the machine reads them as the last fields of an
object that nothing is around, and a claim that names an audience is not overlooked. -/
theorem passClaims?_sound {seen : List String} {named : Bool}
    (hpass : passClaims? seen input = some named)
    (h : (Progress.running ⟨outer, .key fields⟩).Finishes input v) :
    outer = [] ∧ ∃ more, v = .object (fields.reverse ++ more) ∧
      ∀ w, (some "aud", w) ∈ more → namesAudience w = true → named = true := by
  induction hn : input.length using Nat.strong_induction_on
    generalizing seen named input outer fields with
  | _ n ih =>
    obtain ⟨name, first, rest, hlength, ⟨fields', key', outer', hfinishes, hwhere⟩, hrest⟩ :=
      exists_follows hpass h
    rcases hrest with ⟨behind, more, hcomma, hmore, rfl⟩ | ⟨behind, hclose, hblank, rfl⟩
    · rcases finishes_object hfinishes with ⟨_, hclose, -⟩ | ⟨_, hcomma', hp⟩
      · cases hcomma.symm.trans hclose
      · cases hcomma.symm.trans hcomma'
        obtain ⟨houter, fields'', rfl, hnames⟩ :=
          ih _ (hn ▸ (split?_length hcomma).trans hlength) hmore hp rfl
        obtain ⟨rfl, w, rfl, hw⟩ := hwhere.resolve_left (not_not.mpr houter)
        refine ⟨houter, (some name, w) :: fields'', by simp, fun w' hmem hnames' => ?_⟩
        rcases List.mem_cons.mp hmem with heq | hmem
        · cases heq
          rw [hw rfl hnames', Bool.true_or]
        · rw [hnames w' hmem hnames', Bool.or_true]
    · rcases finishes_object hfinishes with ⟨_, hclose', hp⟩ | ⟨_, hcomma, -⟩
      · cases hclose.symm.trans hclose'
        cases outer' with
        | cons frame outer' =>
            cases frame <;> exact (not_finishes_running hblank hp).elim
        | nil =>
            obtain ⟨houter, w, rfl, hw⟩ := hwhere.resolve_left (not_not.mpr rfl)
            obtain ⟨_, hcomplete, -⟩ := hp
            cases hcomplete
            refine ⟨houter.symm, [(some name, w)], by simp, fun w' hmem hnames => ?_⟩
            cases List.mem_singleton.mp hmem
            exact hw rfl hnames
      · cases hclose.symm.trans hcomma

/-- Behind the start of an object, the name of a field is taken as behind a comma. -/
theorem finishes_key_of_keyOrEnd {name : Option String}
    (hname : Json.Token.split? input = some (.string name, rest))
    (h : (Progress.running ⟨outer, .keyOrEnd⟩).Finishes input v) :
    (Progress.running ⟨outer, .key []⟩).Finishes input v := by
  obtain ⟨behind, hrun, hblank⟩ := h
  refine ⟨behind, ?_, hblank⟩
  rw [Progress.proceed, run_of_split? hname] at hrun ⊢
  exact hrun

/-- **No audience is overlooked**: a payload of which the claims are passed over is an object, and
when one of its claims names an audience, the payload does. -/
theorem audienceNamed?_sound {named : Bool} (haudience : audienceNamed? input = some named)
    (h : readSymbols? input = some v) :
    ∃ fields, v = .object fields ∧ ∀ w, (some "aud", w) ∈ fields → namesAudience w = true →
      named = true := by
  have hread : (Progress.running ⟨[], .value⟩).Finishes input v := by
    unfold readSymbols? at h
    split at h
    · next value behind hrun =>
        obtain ⟨hblank, heq⟩ := Option.ite_none_right_eq_some.mp h
        cases heq
        exact ⟨behind, hrun, hblank⟩
    · cases h
  unfold audienceNamed? at haudience
  split at haudience
  · next behind hopen =>
      obtain ⟨p, hstep, hp⟩ := finishes_step (split?_of_next? hopen) hread
      cases hstep
      obtain ⟨_, _, _, _, _, hname, -⟩ := passClaims?_eq_some haudience
      obtain ⟨-, fields, rfl, hnames⟩ :=
        passClaims?_sound haudience (finishes_key_of_keyOrEnd hname hp)
      exact ⟨fields, rfl, hnames⟩
  · cases haudience

end Loyalty.Token
