import Loyalty.Crypto.Argon2
import Loyalty.Error
import Loyalty.Password.Phc
import Loyalty.Text.Utf8

/-!
# Loyalty.Password.Basic

Passwords hashed for storage, and verified against what is stored.

New passwords are hashed with Argon2id at a fixed cost and a salt of 16 bytes.
A stored password says itself how it was hashed.  One that is no stored
password at all is an error; one that cannot be checked — an algorithm, version
or parameter that does not exist, a cost out of range, no hash — matches
nothing.
-/

namespace Loyalty.Password

open Crypto Text

/-! ## hashing -/

/-- The cost of new hashes, and of stored ones that do not say theirs. -/
def defaultParams : Argon2.Params where
  variant := .id
  version := .v13
  memory := 19456
  passes := 2
  lanes := 1

/-- The length of new hashes. -/
def hashLength : Nat := 32

/-- The stored form of a password hashed with a salt. -/
def hash (password : String) (salt : List UInt8) : String :=
  let bytes := Argon2.hash defaultParams hashLength (Utf8.encode password) salt []
  let part (bytes : List UInt8) := String.ofList (Base64.encode Base64.standard bytes)
  s!"$argon2id$v=19$m=19456,t=2,p=1${part salt}${part bytes}"

/-! ## verifying -/

/-- The variant of a name. -/
def variant? (name : List Char) : Option Argon2.Variant :=
  match String.ofList name with
  | "argon2id" => some .id
  | "argon2i" => some .i
  | "argon2d" => some .d
  | _ => none

/-- The version of a number; the later one when there is none. -/
def version? : Option Nat → Option Argon2.Version
  | none | some 0x13 => some .v13
  | some 0x10 => some .v10
  | some _ => none

/-- A cost, and the data that is hashed along with the password. -/
structure Cost where
  params : Argon2.Params
  data : List UInt8

/-- Bytes in base 64, at most so many. -/
def bytes? (most : Nat) (value : List Char) : Option (List UInt8) :=
  (Base64.decode? Base64.standard value).filter (·.length ≤ most)

/-- A parameter taken over; of two of one name the later counts. -/
def Cost.set? (c : Cost) (param : List Char × List Char) : Option Cost :=
  let (name, value) := param
  match String.ofList name with
  | "m" => (Phc.decimal? value).map fun n => { c with params.memory := n }
  | "t" => (Phc.decimal? value).map fun n => { c with params.passes := n }
  | "p" => (Phc.decimal? value).map fun n => { c with params.lanes := n }
  | "keyid" => (bytes? 8 value).map fun _ => c
  | "data" => (bytes? 32 value).map fun data => { c with data }
  | _ => none

/-- A cost that can be hashed at. -/
def Cost.isValid (c : Cost) : Bool :=
  let p := c.params
  8 ≤ p.memory && 8 * p.lanes ≤ p.memory && 1 ≤ p.passes && 1 ≤ p.lanes && p.lanes ≤ 0xFFFFFF

/-- The cost that a stored password names. -/
def cost? (stored : Phc) : Option Cost := do
  let variant ← variant? stored.algorithm
  let version ← version? stored.version
  let c ← stored.params.foldlM Cost.set? ⟨{ defaultParams with variant, version }, []⟩
  if c.isValid then return c else none

/-- A salt of 8 bytes at least. -/
def salt? (stored : Phc) : Option (List UInt8) := do
  let bytes ← Base64.decode? Base64.standard (← stored.salt)
  if 8 ≤ bytes.length then return bytes else none

/-- Whether a password is the one that was stored. -/
def isMatch (password : String) (stored : Phc) : Bool :=
  match cost? stored, salt? stored, stored.hash with
  | some c, some salt, some expected =>
    Argon2.hash c.params expected.length (Utf8.encode password) salt c.data == expected
  | _, _, _ => false

/-- Whether a password is the one of a stored form. -/
def verify (password stored : String) : Except PasswordError Bool :=
  match Phc.parse? stored with
  | some phc => .ok (isMatch password phc)
  | none => .error (.malformedHash "invalid stored password")

end Loyalty.Password
