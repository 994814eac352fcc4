import Loyalty.Proofs.Text.Base64
import Loyalty.Service.Schemes

/-!
# Loyalty.Proofs.Password.Stored

Passwords stored, and the same passwords verified.

What is stored of a password is read as the fields that it was written from
(`parse?_hash`): the cost, the salt and the digest.  So verifying digests the
attempt at the same cost and with the same salt, and compares (`verify_hash`).
-/

namespace Loyalty.Password

open Crypto Text

/-! ## what is stored -/

/-- What is kept of a password. -/
@[irreducible] def digest (password : String) (salt : List UInt8) : List UInt8 :=
  Argon2.hash defaultParams hashLength (Utf8.encode password) salt []

/-- The parameters that a password is stored with. -/
def storedParams : List (List Char × List Char) :=
  [("m".toList, "19456".toList), ("t".toList, "2".toList), ("p".toList, "1".toList)]

/-- The fields that a password is stored as. -/
def storedFields (password : String) (salt : List UInt8) : Phc where
  algorithm := "argon2id".toList
  version := some 0x13
  params := storedParams
  salt := some (Base64.encode Base64.standard salt)
  hash := some (digest password salt)

variable {salt : List UInt8}

theorem length_digest (password : String) (salt : List UInt8) :
    (digest password salt).length = hashLength := by
  simp [digest, Argon2.hash, Argon2.longHash, hashLength, Blake2b.hash]

theorem hash_eq (password : String) (salt : List UInt8) :
    hash password salt = "$argon2id$v=19$m=19456,t=2,p=1$" ++
      String.ofList (Base64.encode Base64.standard salt) ++
      "$" ++ String.ofList (Base64.encode Base64.standard (digest password salt)) := by
  unfold Password.hash digest
  rfl

/-- The stored form is its fields, a dollar sign before each. -/
theorem toList_hash (password : String) (salt : List UInt8) :
    (hash password salt).toList =
      ['$'].intercalate [[], "argon2id".toList, "v=19".toList, "m=19456,t=2,p=1".toList,
        Base64.encode Base64.standard salt,
          Base64.encode Base64.standard (digest password salt)] := by
  rw [hash_eq]
  simp [List.intercalate]

/-! ## reading -/

/-- No dollar sign is written for bytes. -/
theorem dollar_notMem_encode (bytes : List UInt8) : '$' ∉ Base64.encode Base64.standard bytes :=
  fun hdollar =>
  Base64.forall_mem_encode (P := (· ≠ '$')) (by decide) bytes '$' hdollar rfl

theorem splitOn_hash (password : String) (salt : List UInt8) :
    (hash password salt).toList.splitOn '$' =
      [[], "argon2id".toList, "v=19".toList, "m=19456,t=2,p=1".toList,
        Base64.encode Base64.standard salt,
          Base64.encode Base64.standard (digest password salt)] := by
  rw [toList_hash]
  refine List.splitOn_intercalate '$' ?_ (by simp)
  simp [dollar_notMem_encode]

/-- A salt of 3 to 48 bytes is written as a value that is long enough. -/
theorem salt?_encode (hshort : 3 ≤ salt.length) (hlong : salt.length ≤ 48) :
    Phc.salt? (Base64.encode Base64.standard salt) = some (Base64.encode Base64.standard salt) := by
  have hlength := Base64.length_encode Base64.standard salt
  have hvalue : Phc.isValue (Base64.encode Base64.standard salt) = true := by
    rw [Phc.isValue, Bool.and_eq_true, decide_eq_true_iff, List.all_eq_true]
    exact ⟨by omega, Base64.forall_mem_encode (by decide) salt⟩
  rw [Phc.salt?, hvalue, if_pos (by simp; omega)]

theorem hash?_encode (password : String) (salt : List UInt8) :
    Phc.hash? (Base64.encode Base64.standard (digest password salt)) =
      some (digest password salt) := by
  rw [Phc.hash?, Base64.decode?_encode Base64.isReadable_standard, Option.filter_some,
    length_digest]
  rfl

theorem takeVersion?_written (fields : List (List Char)) :
    Phc.takeVersion? ("v=19".toList :: fields) = some (some 0x13, fields) := by
  rfl

theorem takeParams?_written (fields : List (List Char)) :
    Phc.takeParams? ("m=19456,t=2,p=1".toList :: fields) = some (storedParams, fields) := by
  rfl

/-- What is stored of a password is read as its fields. -/
theorem parse?_hash (password : String) (hshort : 3 ≤ salt.length) (hlong : salt.length ≤ 48) :
    Phc.parse? (hash password salt) = some (storedFields password salt) := by
  have hname : Phc.isName "argon2id".toList = true := by decide +kernel
  rw [Phc.parse?, splitOn_hash]
  simp only [hname, takeVersion?_written, takeParams?_written, salt?_encode hshort hlong,
    hash?_encode, if_true, Option.bind_eq_bind, Option.bind_some, Option.pure_def]
  rfl

/-! ## verifying -/

theorem foldlM_storedParams :
    storedParams.foldlM Cost.set? ⟨{ defaultParams with variant := .id, version := .v13 }, []⟩ =
      some ⟨defaultParams, []⟩ := by
  have hmemory (c : Cost) :
      c.set? ("m".toList, "19456".toList) = some { c with params.memory := 19456 } := by rfl
  have hpasses (c : Cost) :
      c.set? ("t".toList, "2".toList) = some { c with params.passes := 2 } := by rfl
  have hlanes (c : Cost) :
      c.set? ("p".toList, "1".toList) = some { c with params.lanes := 1 } := by rfl
  rw [storedParams, List.foldlM_cons, hmemory, Option.bind_eq_bind, Option.bind_some,
    List.foldlM_cons, hpasses, Option.bind_eq_bind, Option.bind_some, List.foldlM_cons, hlanes]
  rfl

/-- A password is stored with the cost that it was hashed at. -/
theorem cost?_storedFields (password : String) (salt : List UInt8) :
    cost? (storedFields password salt) = some ⟨defaultParams, []⟩ := by
  have hvariant : variant? (storedFields password salt).algorithm = some .id := by rfl
  have hversion : version? (storedFields password salt).version = some .v13 := by rfl
  have hparams : (storedFields password salt).params = storedParams := by rfl
  have hvalid : Cost.isValid ⟨defaultParams, []⟩ = true := by decide
  rw [cost?, hvariant, hversion, hparams]
  simp only [Option.bind_eq_bind, Option.bind_some, foldlM_storedParams, hvalid, if_true,
    Option.pure_def]

theorem salt?_storedFields (password : String) (hshort : 8 ≤ salt.length) :
    salt? (storedFields password salt) = some salt := by
  have hwritten : (storedFields password salt).salt = some (Base64.encode Base64.standard salt) :=
    rfl
  rw [salt?, hwritten]
  simp [Base64.decode?_encode Base64.isReadable_standard, hshort]

theorem isMatch_storedFields (password attempt : String) (hshort : 8 ≤ salt.length) :
    isMatch attempt (storedFields password salt) =
      (digest attempt salt == digest password salt) := by
  have hdigest : (storedFields password salt).hash = some (digest password salt) := rfl
  rw [isMatch, cost?_storedFields, salt?_storedFields password hshort, hdigest]
  simp only [length_digest]
  rw [digest, digest]

/-- **A stored password can be checked**, and is matched by whatever has the same digest, if it was
stored with a salt that is as long as the salt of a hash may be. -/
theorem verify_hash (password attempt : String) (hshort : 8 ≤ salt.length)
    (hlong : salt.length ≤ 48) :
    verify attempt (hash password salt) = .ok (digest attempt salt == digest password salt) := by
  rw [verify, parse?_hash password (by omega) hlong]
  simp only [isMatch_storedFields password attempt hshort]

/-- The scheme in use hashes every password with a salt of 16 bytes, and can check what it hashed:
the password itself fits, and so does whatever else has its digest. -/
theorem exists_hash_argon2 (password : String) (hsalt : salt.length = 16) :
    ∃ stored, PasswordScheme.argon2.hash password salt = .ok stored ∧
      PasswordScheme.argon2.verify password stored = .ok true ∧
      ∀ attempt, PasswordScheme.argon2.verify attempt stored =
        .ok (digest attempt salt == digest password salt) := by
  have hverify : ∀ attempt, verify attempt (hash password salt) =
      .ok (digest attempt salt == digest password salt) :=
    fun attempt => verify_hash password attempt (by omega) (by omega)
  refine ⟨hash password salt, rfl, ?_, hverify⟩
  rw [← beq_self_eq_true (digest password salt)]
  exact hverify password

end Loyalty.Password
