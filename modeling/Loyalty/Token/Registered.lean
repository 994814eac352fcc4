import Loyalty.Json.Strict
import Loyalty.Token.Key

/-!
# Loyalty.Token.Registered

The claims with registered names that a payload may hold beside its own.

Times are looked at no further than their first token, and what they are does
not matter.  The subject, the issuer and the audience are read strictly; a value
that cannot be kept counts as none, and the payload must go on where reading
stands then.  Of all of these only the audience matters: tokens that are meant
for one are refused.
-/

namespace Loyalty.Token

open Json Text.Utf8

/-- The names of the registered claims. -/
def registered : List String := ["exp", "nbf", "sub", "iss", "aud"]

/-- The registered claims that are times. -/
def times : List String := ["exp", "nbf"]

/-- Whether a value names an audience: a text, or a list of texts. -/
def namesAudience : Json → Bool
  | .string s => s.isSome
  | v => (texts? v).isSome

/-- The value of a claim passed over: whether it names an audience, and where reading stands. -/
def passClaim? (name : String) (input : List Symbol) : Option (Bool × List Symbol) :=
  if times.contains name then (passToken? input).map fun rest => (false, rest)
  else if registered.contains name then
    (readStrict? (maxDepth - 1) input).map fun (value, rest) =>
      (name = "aud" && value.any namesAudience, rest)
  else (readPrefix? input).map fun (_, rest) => (false, rest)

/-- What is left behind a claim is no longer than what was read. -/
theorem passClaim?_length {name : String} {input rest : List Symbol} {named : Bool}
    (h : passClaim? name input = some (named, rest)) : rest.length ≤ input.length := by
  unfold passClaim? at h
  split at h
  · obtain ⟨r, hr, h⟩ := Option.map_eq_some_iff.1 h
    cases h
    exact passToken?_length hr
  · split at h
    · obtain ⟨⟨v, r⟩, hr, h⟩ := Option.map_eq_some_iff.1 h
      cases h
      exact readStrict?_length hr
    · obtain ⟨⟨v, r⟩, hr, h⟩ := Option.map_eq_some_iff.1 h
      cases h
      exact readPrefix?_length hr

/-- The claims of a payload from a name on, after those with names in `seen`: whether one of them
names an audience, `none` when they cannot be passed over or a registered one comes twice. -/
def passClaims? (seen : List String) (input : List Symbol) : Option Bool :=
  match Token.next? input with
  | some (.string (some name), behindName) =>
    match Token.next? behindName.val with
    | some (.colon, behindColon) =>
      if registered.contains name && seen.contains name then none
      else
        match _h : passClaim? name behindColon.val with
        | none => none
        | some (named, rest) =>
          match Token.next? rest with
          | some (.comma, behindComma) =>
              (passClaims? (name :: seen) behindComma.val).map (named || ·)
          | some (.closeObject, behind) =>
              if (skipBlanks behind.val).isEmpty then some named else none
          | _ => none
    | _ => none
  | _ => none
termination_by input.length
decreasing_by
  have := behindName.property
  have := behindColon.property
  have := passClaim?_length ‹_›
  have := behindComma.property
  omega

/-- Whether a payload names an audience; `none` when it is no object, or one of its claims cannot be
passed over. -/
def audienceNamed? (payload : List Symbol) : Option Bool :=
  match Token.next? payload with
  | some (.openObject, rest) => passClaims? [] rest.val
  | _ => none

end Loyalty.Token
