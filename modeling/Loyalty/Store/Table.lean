/-!
# Loyalty.Store.Table

Tables: values by their keys.

A table is the list of its entries in the order in which their keys came.  Each
key is there once, because `insert` changes the entry of a key that is there.
-/

namespace Loyalty

/-- Values by their keys. -/
structure Table (κ α : Type) where
  entries : List (κ × α)
  deriving DecidableEq

namespace Table

variable {κ α : Type} [DecidableEq κ]

/-- The table without entries. -/
def empty : Table κ α := ⟨[]⟩

/-- The value of a key among entries. -/
def lookup (key : κ) : List (κ × α) → Option α
  | [] => none
  | (k, a) :: rest => if k = key then some a else lookup key rest

/-- Entries with the value of one key set. -/
def set (key : κ) (value : α) : List (κ × α) → List (κ × α)
  | [] => [(key, value)]
  | (k, a) :: rest => if k = key then (k, value) :: rest else (k, a) :: set key value rest

/-- The value of a key. -/
def get? (t : Table κ α) (key : κ) : Option α := lookup key t.entries

/-- The table with the value of one key set. -/
def insert (t : Table κ α) (key : κ) (value : α) : Table κ α := ⟨set key value t.entries⟩

/-- Whether a key is there. -/
def contains (t : Table κ α) (key : κ) : Bool := (t.get? key).isSome

@[simp] theorem get?_empty (key : κ) : (empty : Table κ α).get? key = none := rfl

/-- Setting the value of a key is seen under that key alone. -/
theorem lookup_set (key other : κ) (value : α) (entries : List (κ × α)) :
    lookup other (set key value entries) = if key = other then some value
      else lookup other entries := by
  induction entries with
  | nil => rfl
  | cons entry rest ih =>
    obtain ⟨k, a⟩ := entry
    by_cases hk : k = key
    · subst hk
      by_cases h : k = other <;> simp [set, lookup, h]
    · by_cases h : k = other
      · subst h
        simp [set, lookup, hk, Ne.symm hk]
      · simp [set, lookup, hk, h, ih]

/-- An entry is seen under its key alone. -/
theorem get?_insert (t : Table κ α) (key other : κ) (value : α) :
    (t.insert key value).get? other = if key = other then some value else t.get? other :=
  lookup_set key other value t.entries

@[simp] theorem get?_insert_self (t : Table κ α) (key : κ) (value : α) :
    (t.insert key value).get? key = some value := by simp [get?_insert]

theorem get?_insert_of_ne (t : Table κ α) {key other : κ} (value : α) (h : key ≠ other) :
    (t.insert key value).get? other = t.get? other := by simp [get?_insert, h]

end Table

end Loyalty
