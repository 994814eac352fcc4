import Loyalty.Json.Basic

/-!
# Loyalty.Json.Record

Records with named fields read from JSON values.

A record is an object or the array of its fields in order, all of them.  In an
object unknown fields are passed over, a field may be missing, and no known
field may come twice; a name that is no text is refused, since it cannot be
told to be unknown.
-/

namespace Loyalty.Json

/-- Whether every field has a name and each of `names` comes at most once. -/
def namesFit (names : List String) (fields : List (Option String × Json)) : Bool :=
  fields.all (·.1.isSome) && names.all fun name => (fields.filter (·.1 = some name)).length ≤ 1

/-- The value of a field of an object. -/
def field? (fields : List (Option String × Json)) (name : String) : Option Json :=
  (fields.find? (·.1 = some name)).map (·.2)

/-- The values of the named fields of a record, `none` for one that is missing. -/
def fields? (names : List String) : Json → Option (List (Option Json))
  | .array items => if items.length = names.length then some (items.map some) else none
  | .object fields => if namesFit names fields then some (names.map (field? fields)) else none
  | _ => none

/-- The value of an optional field: missing and `null` are the same. -/
def optional? {α : Type} (decode : Json → Option α) : Option Json → Option (Option α)
  | none | some .null => some none
  | some v => (decode v).map some

/-- A name out of a fixed set: the name itself, or an object that maps it to `null`. -/
def variant? : Json → Option String
  | .string s => s
  | .object [(some name, .null)] => some name
  | _ => none

end Loyalty.Json
