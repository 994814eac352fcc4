import Loyalty.Proofs.Memory.Users
import Loyalty.Proofs.Password.Stored
import Loyalty.Proofs.System.Basic
import Loyalty.Proofs.Token.Issued

/-!
# Loyalty.Proofs.System.Accounts

How registering and logging in go, whatever happens to the stores between their calls.

Registering comes to a user of its own in one call (`Registering.creating`), and
from then on that user is the one of the login, for good; what is left to do
cannot fail.  Logging in is one look at the stores, and what it finds there is
still so when the token is issued (`LoggingIn.issuing`).

How passwords are kept is a parameter.  All that is asked of it is that every
password can be stored, and that what is stored can be checked and fits the
password that it was made from and no other (`Faithful`).  That is what the scheme
in use does as far as no two passwords have one digest
(`Password.exists_hash_argon2`).
-/

namespace Loyalty

/-- Every password can be stored, and what is stored can be checked, and fits that password and no
other. -/
structure PasswordScheme.Faithful (passwords : PasswordScheme) : Prop where
  exists_hash : ∀ password salt, ∃ stored, passwords.hash password salt = .ok stored
  exists_verify : ∀ {password salt stored}, passwords.hash password salt = .ok stored →
    ∀ attempt, ∃ fits, passwords.verify attempt stored = .ok fits
  verify_eq_true_iff : ∀ {password salt stored}, passwords.hash password salt = .ok stored →
    ∀ attempt, passwords.verify attempt stored = .ok true ↔ attempt = password

namespace System

open Store Store.Memory

/-- Passwords kept as they are. -/
def plainPasswords : PasswordScheme where
  hash password _ := .ok password
  verify attempt stored := .ok (decide (attempt = stored))

theorem faithful_plainPasswords : plainPasswords.Faithful where
  exists_hash password _ := ⟨password, rfl⟩
  exists_verify _ _ := ⟨_, rfl⟩
  verify_eq_true_iff := by
    intro password salt stored hstored attempt
    obtain rfl := Except.ok.inj hstored
    simp [plainPasswords]

/-! ## credentials -/

/-- A login that is not blank, and a password that is not empty. -/
structure Filled (name password : String) : Prop where
  name : Text.isBlankText name = false
  password : password ≠ ""

theorem ensureCredentials_of_filled {name password : String} (h : Filled name password) :
    Account.ensureCredentials name password = .ok () := by
  simp [Account.ensureCredentials, h.name, h.password]

theorem ensureCredentials_of_not_filled {name password : String} (h : ¬ Filled name password) :
    Account.ensureCredentials name password =
      .error (.validation "login and password are required") := by
  refine if_pos ?_
  rw [Bool.or_eq_true, String.isEmpty_iff]
  by_contra hneither
  rw [not_or, Bool.not_eq_true] at hneither
  exact h ⟨hneither.1, hneither.2⟩

/-- What is stored of a user was made from a password. -/
def Stored (passwords : PasswordScheme) (password : String) (user : User) : Prop :=
  ∃ salt, passwords.hash password salt = .ok user.passwordHash

/-- A stored password is matched by itself alone. -/
theorem Stored.verify {passwords : PasswordScheme} {password : String} {user : User}
    (h : Stored passwords password user) (hpasswords : passwords.Faithful) (attempt : String) :
    passwords.verify attempt user.passwordHash = .ok (decide (attempt = password)) := by
  obtain ⟨salt, hsalt⟩ := h
  have hiff := hpasswords.verify_eq_true_iff hsalt attempt
  obtain ⟨fits, hfits⟩ := hpasswords.exists_verify hsalt attempt
  rw [hfits, Except.ok.injEq] at hiff
  rw [hfits, Except.ok.injEq, Bool.eq_iff_iff, decide_eq_true_iff, hiff]

/-- A user was stored with one password. -/
theorem Stored.unique {passwords : PasswordScheme} {password password' : String} {user : User}
    (h : Stored passwords password user) (h' : Stored passwords password' user)
    (hpasswords : passwords.Faithful) :
    password = password' := by
  have hverify := h.verify hpasswords password'
  rw [h'.verify hpasswords password'] at hverify
  have hsame := Except.ok.inj hverify
  rw [decide_eq_true rfl, eq_comm, decide_eq_true_iff] at hsame
  exact hsame.symm

/-! ## tokens -/

/-- A token was issued to a user: from then on until its lifetime is over it is accepted as that
user's. -/
def IssuedTo (tokens : TokenScheme) (user : UserId) (token : String) : Prop :=
  ∃ now, tokens.issue user now = .ok token ∧
    (Token.Issuable now Token.lifetime → ∀ later, now ≤ later → later < now.add Token.lifetime →
      ∃ claims, tokens.validate token later = .ok claims ∧ claims.sub = user)

theorem issuedTo_signed (secret : List UInt8) (user : UserId) (now : Instant) :
    IssuedTo (.signed secret) user (Token.issue secret Token.lifetime user now) :=
  ⟨now, rfl, fun hissuable _ hbegun hended =>
    ⟨_, Token.validate_issue_of_window secret user hissuable hbegun hended, rfl⟩⟩

/-! ## stages -/

/-- What follows the creation of a user: a balance and a token, or the news that the login is
taken. -/
structure FollowsCreation (secret : List UInt8) (next : Except StoreError User → UseCase String) :
    Prop where
  created : ∀ user, next (.ok user) =
    UseCase.call (.openBalance user.id) fun _ => Account.issueToken (.signed secret) user.id
  taken : next (.error .duplicate) = UseCase.refuse (.conflict "login already taken")

/-- What follows a look at a login: a token, or the news that something is wrong. -/
structure FollowsLook (passwords : PasswordScheme) (secret : List UInt8) (password : String)
    (next : Except StoreError (Option User) → UseCase String) : Prop where
  unknown : next (.ok none) = UseCase.refuse .unauthorized
  wrong : ∀ user, passwords.verify password user.passwordHash = .ok false →
    next (.ok (some user)) = UseCase.refuse .unauthorized
  right : ∀ user, passwords.verify password user.passwordHash = .ok true →
    next (.ok (some user)) = Account.issueToken (.signed secret) user.id

section

variable (passwords : PasswordScheme) (secret : List UInt8) (m₀ m : Memory.State)
  (name password : String)

/-- How far the registration of a login and a password has come. -/
inductive Registering : UseCase String → Prop
  | refused (h : ¬ Filled name password) :
      Registering (.done (.error (.domain (.validation "login and password are required"))))
  | salting {next : List UInt8 → UseCase String} (h : Filled name password)
      (hnext : ∀ salt stored, passwords.hash password salt = .ok stored →
        ∃ next', next salt = .ask (.store (.createUser name stored)) next' ∧
          FollowsCreation secret next') :
      Registering (.ask .salt next)
  | creating {salt : List UInt8} {stored : String}
      {next : Except StoreError User → UseCase String} (h : Filled name password)
      (hstored : passwords.hash password salt = .ok stored) (hnext : FollowsCreation secret next) :
      Registering (.ask (.store (.createUser name stored)) next)
  /-- The user is there, and is to have a balance. -/
  | opening {user : User} (h : Filled name password) (huser : m.user? name = some user)
      (hstored : Stored passwords password user) :
      Registering (UseCase.call (.openBalance user.id) fun _ =>
        Account.issueToken (.signed secret) user.id)
  | issuing {user : User} (h : Filled name password) (huser : m.user? name = some user)
      (hstored : Stored passwords password user) :
      Registering (Account.issueToken (.signed secret) user.id)
  | ended {user : User} {now : Instant} (h : Filled name password)
      (huser : m.user? name = some user) (hstored : Stored passwords password user) :
      Registering (.done (.ok (Token.issue secret Token.lifetime user.id now)))
  | taken {user : User} (h : Filled name password) (huser : m.user? name = some user) :
      Registering (.done (.error (.domain (.conflict "login already taken"))))

/-- How far logging in has come that began no earlier than in a state. -/
inductive LoggingIn : UseCase String → Prop
  | refused (h : ¬ Filled name password) :
      LoggingIn (.done (.error (.domain (.validation "login and password are required"))))
  | looking {next : Except StoreError (Option User) → UseCase String} (h : Filled name password)
      (hnext : FollowsLook passwords secret password next) :
      LoggingIn (.ask (.store (.findByLogin name)) next)
  /-- The password is the one of the user, who is to have a token. -/
  | issuing {user : User} (h : Filled name password) (huser : m.user? name = some user)
      (hstored : Stored passwords password user) :
      LoggingIn (Account.issueToken (.signed secret) user.id)
  | ended {user : User} {now : Instant} (h : Filled name password)
      (huser : m.user? name = some user) (hstored : Stored passwords password user) :
      LoggingIn (.done (.ok (Token.issue secret Token.lifetime user.id now)))
  /-- No user of this login and password was there when it began. -/
  | unauthorized (h : Filled name password)
      (hnobody : ∀ user, m₀.user? name = some user → ¬ Stored passwords password user) :
      LoggingIn (.done (.error (.domain .unauthorized)))

end

/-! ## users -/

/-- Every user is still there. -/
def KeepsUsers (m m' : Memory.State) : Prop :=
  ∀ ⦃name user⦄, m.user? name = some user → m'.user? name = some user

/-- Who registers has come to a user, whose login this is. -/
def entered? (name : String) : UseCase String → Option String
  | .ask (.store (.openBalance _)) _ | .ask .now _ | .done (.ok _) => some name
  | _ => none

/-- What a step does to the users, as the one who registers holds a login before it and after it. -/
inductive Admits (m m' : Memory.State) : Option String → Option String → Prop
  | nobody {name? : Option String} (h : ∀ name, m'.user? name = m.user? name) :
      Admits m m' name? name?
  | somebody {name : String} {user : User} (hfresh : m.user? name = none)
      (h : ∀ other, m'.user? other = if other = name then some user else m.user? other) :
      Admits m m' none (some name)

section

variable {passwords : PasswordScheme} {secret : List UInt8} {m₀ m m' : Memory.State}
  {name password : String} {rest : UseCase String}

theorem KeepsUsers.refl (m : Memory.State) : KeepsUsers m m := fun _ _ h => h

theorem KeepsUsers.trans {m'' : Memory.State} (h : KeepsUsers m m') (h' : KeepsUsers m' m'') :
    KeepsUsers m m'' :=
  fun _ _ huser => h' (h huser)

theorem Admits.keeps {before after : Option String} (h : Admits m m' before after) :
    KeepsUsers m m' := by
  intro name user huser
  cases h with
  | nobody h => rw [h, huser]
  | @somebody fresh _ hfresh h =>
      have hne : name ≠ fresh := by
        rintro rfl
        rw [hfresh] at huser
        contradiction
      rw [h, if_neg hne, huser]

/-- One more request that holds what the users gained. -/
theorem Held.admit {holder : ℕ → Option String}
    (h : Held (fun name => (m.user? name).isSome) holder) {i : ℕ} {after : Option String}
    (hadmits : Admits m m' (holder i) after) :
    Held (fun name => (m'.user? name).isSome) (Function.update holder i after) := by
  generalize hi : holder i = before at hadmits
  cases hadmits with
  | nobody hsame =>
      rw [← hi, Function.update_eq_self]
      exact h.congr fun name => by rw [hsame]
  | @somebody name user hfresh hthere =>
      refine h.hold hi (by simp [hfresh]) fun other => ?_
      rw [hthere]
      by_cases hother : other = name
      · simp [hother]
      · simp [hother]

theorem Registering.mono (h : Registering passwords secret m name password rest)
    (hm : KeepsUsers m m') :
    Registering passwords secret m' name password rest := by
  cases h with
  | refused h => exact .refused h
  | salting h hnext => exact .salting h hnext
  | creating h hstored hnext => exact .creating h hstored hnext
  | opening h huser hstored => exact .opening h (hm huser) hstored
  | issuing h huser hstored => exact .issuing h (hm huser) hstored
  | ended h huser hstored => exact .ended h (hm huser) hstored
  | taken h huser => exact .taken h (hm huser)

theorem LoggingIn.mono (h : LoggingIn passwords secret m₀ m name password rest)
    (hm : KeepsUsers m m') :
    LoggingIn passwords secret m₀ m' name password rest := by
  cases h with
  | refused h => exact .refused h
  | looking h hnext => exact .looking h hnext
  | issuing h huser hstored => exact .issuing h (hm huser) hstored
  | ended h huser hstored => exact .ended h (hm huser) hstored
  | unauthorized h hnobody => exact .unauthorized h hnobody

/-- Who has come to a user is the one who registers the login, with the password that is stored. -/
theorem Registering.exists_stored {other : String}
    (h : Registering passwords secret m name password rest)
    (hentered : entered? name rest = some other) :
    name = other ∧ ∃ user, m.user? name = some user ∧ Stored passwords password user := by
  cases h with
  | refused | salting | creating | taken => cases hentered
  | opening h huser hstored | issuing h huser hstored | ended h huser hstored =>
      exact ⟨Option.some.inj hentered, _, huser, hstored⟩

/-! ## beginnings -/

/-- A registration that has not asked anything yet is refused, or is about to ask for salt. -/
theorem registering_register (passwords : PasswordScheme) (secret : List UInt8) (m : Memory.State)
    (name password : String) :
    Registering passwords secret m name password
      (Account.register passwords (.signed secret) name password) := by
  unfold Account.register
  by_cases h : Filled name password
  · rw [ensureCredentials_of_filled h]
    refine .salting h fun salt stored hstored => ?_
    simp only [hstored]
    exact ⟨_, rfl, fun _ => rfl, rfl⟩
  · rw [ensureCredentials_of_not_filled h]
    exact .refused h

/-- Logging in that has not asked anything yet is refused, or is about to look at the stores. -/
theorem loggingIn_login (passwords : PasswordScheme) (secret : List UInt8) (m₀ m : Memory.State)
    (name password : String) :
    LoggingIn passwords secret m₀ m name password
      (Account.login passwords (.signed secret) name password) := by
  unfold Account.login
  by_cases h : Filled name password
  · rw [ensureCredentials_of_filled h]
    exact .looking h
      { unknown := rfl
        wrong := fun user hverify => by simp only [hverify]
        right := fun user hverify => by simp only [hverify] }
  · rw [ensureCredentials_of_not_filled h]
    exact .refused h

/-! ## answers -/

/-- What one answer does to a registration and to the users. -/
theorem Registering.answer {t t' : Trace} (hpasswords : passwords.Faithful) {q : Need}
    {next : q.Answer → UseCase String} {r : q.Answer}
    (h : Registering passwords secret t.state name password (.ask q next))
    (hserves : Serves t q r t') :
    Registering passwords secret t'.state name password (next r) ∧
      Admits t.state t'.state (entered? name (.ask q next)) (entered? name (next r)) := by
  cases h with
  | salting h hnext =>
      obtain rfl := hserves
      obtain ⟨stored, hstored⟩ := hpasswords.exists_hash password r
      obtain ⟨next', hasks, hnext'⟩ := hnext r stored hstored
      rw [hasks]
      exact ⟨.creating h hstored hnext', .nobody fun _ => rfl⟩
  | @creating salt stored _ h hstored hnext =>
      obtain ⟨stamp, rfl, rfl⟩ := hserves
      cases huser : t.state.user? name with
      | some user =>
          have hcreate := State.createUser_of_some huser stamp stored
          have hstate : (t.ask ⟨stamp, .createUser name stored⟩).state = t.state :=
            congrArg Prod.snd hcreate
          have hanswer :
              (Memory.step stamp t.state (.createUser name stored)).1 = .error .duplicate :=
            congrArg Prod.fst hcreate
          rw [hstate, hanswer, hnext.taken]
          exact ⟨.taken h huser, .nobody fun _ => rfl⟩
      | none =>
          obtain ⟨user, s', hcreate, hhash, husers⟩ := State.createUser_of_none huser stamp stored
          have hstate : (t.ask ⟨stamp, .createUser name stored⟩).state = s' :=
            congrArg Prod.snd hcreate
          have hanswer : (Memory.step stamp t.state (.createUser name stored)).1 = .ok user :=
            congrArg Prod.fst hcreate
          have hthere : s'.user? name = some user := by rw [husers, if_pos rfl]
          rw [hstate, hanswer, hnext.created]
          exact ⟨.opening h hthere ⟨salt, hhash ▸ hstored⟩, .somebody huser husers⟩
  | @opening user h huser hstored =>
      obtain ⟨stamp, rfl, rfl⟩ := hserves
      have hsame :
          ∀ other, (t.ask ⟨stamp, .openBalance user.id⟩).state.user? other = t.state.user? other :=
        State.user?_step t.state stamp nofun
      exact ⟨.issuing h ((hsame name).trans huser) hstored, .nobody hsame⟩
  | issuing h huser hstored =>
      obtain rfl := hserves
      exact ⟨.ended h huser hstored, .nobody fun _ => rfl⟩

/-- What one answer makes of logging in, where every user was stored with a password. -/
theorem LoggingIn.answer {t t' : Trace} (hpasswords : passwords.Faithful)
    (hm₀ : KeepsUsers m₀ t.state)
    (hkept : ∀ user, t.state.user? name = some user → ∃ stored, Stored passwords stored user)
    {q : Need} {next : q.Answer → UseCase String} {r : q.Answer}
    (h : LoggingIn passwords secret m₀ t.state name password (.ask q next))
    (hserves : Serves t q r t') :
    LoggingIn passwords secret m₀ t'.state name password (next r) := by
  cases h with
  | @looking next h hnext =>
      obtain ⟨stamp, rfl, rfl⟩ := hserves
      change LoggingIn passwords secret m₀ t.state name password (next (.ok (t.state.user? name)))
      cases huser : t.state.user? name with
      | none =>
          rw [hnext.unknown]
          refine .unauthorized h fun user hbefore => ?_
          rw [hm₀ hbefore] at huser
          contradiction
      | some user =>
          obtain ⟨stored, hstored⟩ := hkept user huser
          have hverify := hstored.verify hpasswords password
          by_cases hsame : password = stored
          · rw [hnext.right user (by rw [hverify, decide_eq_true hsame])]
            exact .issuing h huser (hsame ▸ hstored)
          · rw [hnext.wrong user (by rw [hverify, decide_eq_false hsame])]
            refine .unauthorized h fun user' hbefore hfits => ?_
            rw [hm₀ hbefore] at huser
            obtain rfl := Option.some.inj huser
            exact hsame (hfits.unique hstored hpasswords)
  | issuing h huser hstored =>
      obtain rfl := hserves
      exact .ended h huser hstored

/-! ## ends -/

theorem Registering.refused_of_done {r : Except ServiceError String}
    (h : Registering passwords secret m name password (.done r)) (hempty : ¬ Filled name password) :
    r = .error (.domain (.validation "login and password are required")) := by
  cases h with
  | refused => rfl
  | ended h | taken h => exact absurd h hempty

/-- Nothing but a login that is taken keeps a registration from a token. -/
theorem Registering.of_done {r : Except ServiceError String}
    (h : Registering passwords secret m name password (.done r)) (hfilled : Filled name password) :
    (∃ token, r = .ok token) ∨ r = .error (.domain (.conflict "login already taken")) := by
  cases h with
  | refused hempty => exact absurd hfilled hempty
  | ended => exact .inl ⟨_, rfl⟩
  | taken => exact .inr rfl

/-- Who is told that a login is taken has come to no user of it, but somebody has. -/
theorem Registering.of_done_conflict {message : String}
    (h : Registering passwords secret m name password
      (.done (.error (.domain (.conflict message))))) :
    (m.user? name).isSome := by
  cases h with
  | taken _ huser =>
      rw [huser]
      rfl

/-- The token of a registration was issued to the user that it came to. -/
theorem Registering.of_done_ok {token : String}
    (h : Registering passwords secret m name password (.done (.ok token))) :
    Filled name password ∧ ∃ user, m.user? name = some user ∧ Stored passwords password user ∧
      IssuedTo (.signed secret) user.id token := by
  cases h with
  | ended h huser hstored => exact ⟨h, _, huser, hstored, issuedTo_signed secret _ _⟩

theorem LoggingIn.refused_of_done {r : Except ServiceError String}
    (h : LoggingIn passwords secret m₀ m name password (.done r))
    (hempty : ¬ Filled name password) :
    r = .error (.domain (.validation "login and password are required")) := by
  cases h with
  | refused => rfl
  | ended h | unauthorized h => exact absurd h hempty

/-- Whoever logs in has a token of the user with that password, or there was none when it began. -/
theorem LoggingIn.of_done {r : Except ServiceError String}
    (h : LoggingIn passwords secret m₀ m name password (.done r)) (hfilled : Filled name password) :
    (r = .error (.domain .unauthorized) ∧ ∀ user, m₀.user? name = some user →
      ¬ Stored passwords password user) ∨
      ∃ user token, m.user? name = some user ∧ Stored passwords password user ∧ r = .ok token ∧
        IssuedTo (.signed secret) user.id token := by
  cases h with
  | refused hempty => exact absurd hfilled hempty
  | ended _ huser hstored => exact .inr ⟨_, _, huser, hstored, rfl, issuedTo_signed secret _ _⟩
  | unauthorized _ hnobody => exact .inl ⟨rfl, hnobody⟩

/-- Where a user was there from the beginning, logging in comes to a token of that user, or the
password is another one. -/
theorem LoggingIn.ok_iff {r : Except ServiceError String} {user : User} {stored : String}
    (h : LoggingIn passwords secret m₀ m name password (.done r))
    (hpasswords : passwords.Faithful) (hm₀ : KeepsUsers m₀ m) (huser : m₀.user? name = some user)
    (hstored : Stored passwords stored user) (hfilled : Filled name stored) :
    ((∃ token, r = .ok token) ↔ password = stored) ∧ ∀ token, r = .ok token →
      IssuedTo (.signed secret) user.id token := by
  by_cases hempty : Filled name password
  · obtain ⟨rfl, hnobody⟩ | ⟨user', token, huser', hstored', rfl, hissued⟩ := h.of_done hempty
    · have hne : password ≠ stored := by
        rintro rfl
        exact hnobody user huser hstored
      simp [hne]
    · rw [hm₀ huser] at huser'
      obtain rfl := Option.some.inj huser'
      simp [hstored'.unique hstored hpasswords, hissued]
  · have hne : password ≠ stored := by
      rintro rfl
      exact hempty hfilled
    simp [h.refused_of_done hempty, hne]

end

end System

end Loyalty
