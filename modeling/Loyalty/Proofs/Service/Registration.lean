import Loyalty.Proofs.System.Accounts

/-!
# Loyalty.Proofs.Service.Registration

Registering on stores that may fail at any time.

Whatever fails, registering ends in one of two ways: no user came into being and
the users are those that there were, or one did and has the login from then on
(`Ends`).  In the first case the login is as free as before; in the second it is
not, even if no balance was opened or no token issued, since no call takes a user
back.  Such a user logs in with the password that was registered
(`register_repeatable`).
-/

namespace Loyalty.Account

open Program (Exchange)
open Loyalty.System

variable {σ : Type} {answer : (q : Need) → σ → q.Answer × σ} {users : σ → String → Option User}
  {passwords : PasswordScheme} {tokens : TokenScheme} {name password : String} {s : σ}

/-! ## stores that may fail -/

/-- Stores that keep users by their logins: any call may fail at any time and then leaves them as
they are, a login that there is not is given away once, and a login is said to be there only if it
is. -/
structure UserStore (answer : (q : Need) → σ → q.Answer × σ) (users : σ → String → Option User) :
    Prop where
  created : ∀ {s name stored user}, (answer (.store (.createUser name stored)) s).1 = .ok user →
    users s name = none ∧ user.passwordHash = stored ∧
      users (answer (.store (.createUser name stored)) s).2 =
        Function.update (users s) name (some user)
  failed : ∀ {s name stored e}, (answer (.store (.createUser name stored)) s).1 = .error e →
    users (answer (.store (.createUser name stored)) s).2 = users s
  duplicate : ∀ {s name stored},
    (answer (.store (.createUser name stored)) s).1 = .error .duplicate →
    ∃ user, users s name = some user
  found : ∀ {s name user?}, (answer (.store (.findByLogin name)) s).1 = .ok user? →
    user? = users s name
  others : ∀ {s q}, (∀ name stored, q ≠ .store (.createUser name stored)) →
    users (answer q s).2 = users s

/-! ## how registering ends -/

/-- The news that a login is taken. -/
def loginTaken : ServiceError := .domain (.conflict "login already taken")

/-- What was asked when no user came into being, and why none did. -/
inductive Refused (passwords : PasswordScheme) (name password : String)
    (before : String → Option User) : List (Exchange Need.Answer) → ServiceError → Prop
  | blank (h : ¬ Filled name password) :
      Refused passwords name password before []
        (.domain (.validation "login and password are required"))
  | unhashed {salt : List UInt8} {reason : PasswordError}
      (hhash : passwords.hash password salt = .error reason) :
      Refused passwords name password before [⟨.salt, salt⟩] (.password reason)
  | taken {salt : List UInt8} {stored : String} {user : User}
      (hhash : passwords.hash password salt = .ok stored) (h : before name = some user) :
      Refused passwords name password before
        [⟨.salt, salt⟩, ⟨.store (.createUser name stored), .error .duplicate⟩] loginTaken
  | failed {salt : List UInt8} {stored : String} {failure : StoreError}
      (hhash : passwords.hash password salt = .ok stored) (h : failure ≠ .duplicate) :
      Refused passwords name password before
        [⟨.salt, salt⟩, ⟨.store (.createUser name stored), .error failure⟩] (.ofStore failure)

/-- What is asked once there is a user, and what registering comes to. -/
inductive Continued (tokens : TokenScheme) (userId : UserId) :
    List (Exchange Need.Answer) → Except ServiceError String → Prop
  | issued {now : Instant} {token : String} (h : tokens.issue userId now = .ok token) :
      Continued tokens userId [⟨.store (.openBalance userId), .ok ()⟩, ⟨.now, now⟩] (.ok token)
  | unopened (failure : StoreError) :
      Continued tokens userId [⟨.store (.openBalance userId), .error failure⟩]
        (.error (.ofStore failure))
  | unissued {now : Instant} {failure : TokenError} (h : tokens.issue userId now = .error failure) :
      Continued tokens userId [⟨.store (.openBalance userId), .ok ()⟩, ⟨.now, now⟩]
        (.error (.token failure))

/-- How registering ends, by the users before and after it. -/
inductive Ends (passwords : PasswordScheme) (tokens : TokenScheme) (name password : String)
    (before : String → Option User) :
    List (Exchange Need.Answer) → Except ServiceError String → (String → Option User) → Prop
  /-- No user came into being. -/
  | without {log : List (Exchange Need.Answer)} {e : ServiceError}
      (he : Refused passwords name password before log e) :
      Ends passwords tokens name password before log (.error e) before
  /-- There is a new user, with or without a balance and a token. -/
  | created {salt : List UInt8} {stored : String} {rest : List (Exchange Need.Answer)}
      {r : Except ServiceError String} {user : User}
      (hfilled : Filled name password) (hfree : before name = none)
      (hhash : passwords.hash password salt = .ok stored) (hstored : user.passwordHash = stored)
      (hr : Continued tokens user.id rest r) :
      Ends passwords tokens name password before
        (⟨.salt, salt⟩ :: ⟨.store (.createUser name stored), .ok user⟩ :: rest) r
        (Function.update before name (some user))

/-- Where no user came into being, none was made. -/
theorem Refused.not_mem {before : String → Option User} {log : List (Exchange Need.Answer)}
    {e : ServiceError} (h : Refused passwords name password before log e) (stored : String)
    (user : User) : ⟨.store (.createUser name stored), .ok user⟩ ∉ log := by
  cases h <;> simp

/-- What is left once a user came into being touches no users. -/
theorem UserStore.run_open (h : UserStore answer users) (tokens : TokenScheme) (userId : UserId)
    (s : σ) :
    users ((UseCase.call (.openBalance userId) fun _ => issueToken tokens userId).run answer s).2 =
        users s ∧
      Continued tokens userId
        ((UseCase.call (.openBalance userId) fun _ => issueToken tokens userId).exchanges answer s)
        ((UseCase.call (.openBalance userId) fun _ => issueToken tokens userId).run answer
          s).1 := by
  have hopened : users (answer (.store (.openBalance userId)) s).2 = users s := h.others (by simp)
  rw [UseCase.call, Program.run_ask, Program.exchanges]
  cases (answer (.store (.openBalance userId)) s).1 with
  | error failure => exact ⟨hopened, .unopened failure⟩
  | ok _ =>
      refine ⟨(h.others (by simp)).trans hopened, ?_⟩
      simp only [issueToken, Program.run_ask, Program.run_done, Program.exchanges]
      cases hissue : tokens.issue userId _ with
      | ok token => exact .issued hissue
      | error failure => exact .unissued hissue

/-- However the stores answer, registering ends in one of these ways. -/
theorem UserStore.ends (h : UserStore answer users) (passwords : PasswordScheme)
    (tokens : TokenScheme) (name password : String) (s : σ) :
    Ends passwords tokens name password (users s)
      ((register passwords tokens name password).exchanges answer s)
      ((register passwords tokens name password).run answer s).1
      (users ((register passwords tokens name password).run answer s).2) := by
  by_cases hfilled : Filled name password
  · have hsalted : users (answer .salt s).2 = users s := h.others (by simp)
    rw [register, ensureCredentials_of_filled hfilled, UseCase.require, Program.run_ask,
      Program.exchanges, ← hsalted]
    cases hhash : passwords.hash password (answer .salt s).1 with
    | error e => exact .without (.unhashed hhash)
    | ok stored =>
        obtain ⟨made, hmade⟩ :
            ∃ made, (answer (.store (.createUser name stored)) (answer .salt s).2).1 = made :=
          ⟨_, rfl⟩
        dsimp only
        rw [Program.run_ask, Program.exchanges, hmade]
        cases made with
        | ok user =>
            obtain ⟨hfree, hstored, husers⟩ := h.created hmade
            obtain ⟨hkept, hr⟩ := h.run_open tokens user.id (answer _ (answer .salt s).2).2
            rw [husers] at hkept
            rw [hkept]
            exact .created hfilled hfree hhash hstored hr
        | error e =>
            have hfailed := h.failed hmade
            cases e with
            | duplicate =>
                obtain ⟨user, huser⟩ := h.duplicate hmade
                exact hfailed ▸ .without (.taken hhash (hfailed.symm ▸ huser))
            | _ => exact hfailed ▸ .without (.failed hhash (by simp))
  · rw [register, ensureCredentials_of_not_filled hfilled]
    exact .without (.blank hfilled)

/-! ## after it -/

theorem ofStore_ne_loginTaken (e : StoreError) : ServiceError.ofStore e ≠ loginTaken := by
  cases e <;> simp [ServiceError.ofStore, loginTaken]

/-- Where nobody has the login, an attempt is not refused as taken. -/
theorem Refused.ne_loginTaken {before : String → Option User} {log : List (Exchange Need.Answer)}
    {e : ServiceError} (h : Refused passwords name password before log e)
    (hfree : before name = none) : e ≠ loginTaken := by
  cases h with
  | taken _ h =>
      rw [hfree] at h
      contradiction
  | failed => exact ofStore_ne_loginTaken _
  | blank | unhashed => simp [loginTaken]

/-- Going on with a new user does not end in the news that the login is taken. -/
theorem Continued.ne_loginTaken {userId : UserId} {log : List (Exchange Need.Answer)}
    {e : ServiceError} (h : Continued tokens userId log (.error e)) : e ≠ loginTaken := by
  cases h with
  | unopened failure => exact ofStore_ne_loginTaken failure
  | unissued => simp [loginTaken]

/-- An attempt where nobody has the login does not end in the news that it is taken. -/
theorem UserStore.ne_loginTaken (h : UserStore answer users) (hfree : users s name = none)
    (passwords : PasswordScheme) (tokens : TokenScheme) (password : String) :
    ((register passwords tokens name password).run answer s).1 ≠ .error loginTaken := by
  intro htaken
  have hends := h.ends passwords tokens name password s
  rw [htaken] at hends
  generalize users ((register passwords tokens name password).run answer s).2 = after at hends
  generalize (register passwords tokens name password).exchanges answer s = log at hends
  generalize htaken : loginTaken = e at hends
  cases hends with
  | without he => exact he.ne_loginTaken hfree htaken.symm
  | created _ _ _ _ hr => exact hr.ne_loginTaken htaken.symm

/-- An attempt where somebody has the login is refused, whatever the password. -/
theorem UserStore.refused_of_some (h : UserStore answer users) {user : User}
    (huser : users s name = some user) (passwords : PasswordScheme) (tokens : TokenScheme)
    (password : String) :
    ∃ e, ((register passwords tokens name password).run answer s).1 = .error e ∧
      Refused passwords name password (users s)
        ((register passwords tokens name password).exchanges answer s) e := by
  have hends := h.ends passwords tokens name password s
  generalize ((register passwords tokens name password).run answer s).1 = r at hends
  generalize users ((register passwords tokens name password).run answer s).2 = after at hends
  generalize (register passwords tokens name password).exchanges answer s = log at hends ⊢
  cases hends with
  | without he => exact ⟨_, rfl, he⟩
  | created _ hfree =>
      rw [huser] at hfree
      contradiction

/-- What is asked when somebody who has a login logs in with the password that fits, and what that
comes to. -/
inductive LoggedIn (tokens : TokenScheme) (name : String) (user : User) :
    List (Exchange Need.Answer) → Except ServiceError String → Prop
  | failed (failure : StoreError) :
      LoggedIn tokens name user [⟨.store (.findByLogin name), .error failure⟩]
        (.error (.ofStore failure))
  | found (now : Instant) :
      LoggedIn tokens name user [⟨.store (.findByLogin name), .ok (some user)⟩, ⟨.now, now⟩]
        ((tokens.issue user.id now).mapError .token)

/-- Whoever has the login gets a token with the password that fits, unless the call of the stores
fails. -/
theorem UserStore.run_login (h : UserStore answer users) {user : User}
    (huser : users s name = some user) (hfilled : Filled name password)
    (hverify : passwords.verify password user.passwordHash = .ok true) (tokens : TokenScheme) :
    LoggedIn tokens name user ((login passwords tokens name password).exchanges answer s)
      ((login passwords tokens name password).run answer s).1 := by
  rw [login, ensureCredentials_of_filled hfilled, UseCase.require, UseCase.call, Program.run_ask,
    Program.exchanges]
  cases hfound : (answer (.store (.findByLogin name)) s).1 with
  | error failure => exact .failed failure
  | ok user? =>
      obtain rfl : user? = some user := (h.found hfound).trans huser
      dsimp only
      rw [hverify]
      exact .found _

/-! ## stores of which some calls fail -/

/-- Answers from the stores in memory, at one instant and without any randomness. -/
def inMemory : (q : Need) → Store.Memory.State → q.Answer × Store.Memory.State
  | .store call, m => Store.Memory.step default m call
  | .now, m => (.epoch, m)
  | .salt, m => ([], m)

/-- The same stores, some of whose calls fail without being made. -/
def failing (fails : StoreCall → Option StoreError) (answer : (q : Need) → σ → q.Answer × σ) :
    (q : Need) → σ → q.Answer × σ
  | .store call, s =>
    match fails call with
    | some failure => (.error failure, s)
    | none => answer (.store call) s
  | .now, s => answer .now s
  | .salt, s => answer .salt s

/-- A call fails and changes nothing, or it is made. -/
theorem failing_store (fails : StoreCall → Option StoreError)
    (answer : (q : Need) → σ → q.Answer × σ) (call : StoreCall) (s : σ) :
    (∃ failure, fails call = some failure ∧
        failing fails answer (.store call) s = (.error failure, s)) ∨
      failing fails answer (.store call) s = answer (.store call) s := by
  cases hfails : fails call with
  | some failure => exact .inl ⟨failure, rfl, by simp only [failing, hfails]⟩
  | none => exact .inr (by simp only [failing, hfails])

/-- Stores keep users whatever calls of them fail, if no failure says that a login is there. -/
theorem UserStore.failing (h : UserStore answer users) {fails : StoreCall → Option StoreError}
    (hfails : ∀ name stored, fails (.createUser name stored) ≠ some .duplicate) :
    UserStore (failing fails answer) users where
  created {s name stored user} hok := by
    obtain ⟨failure, -, hout⟩ | hout := failing_store fails answer (.createUser name stored) s
    · rw [hout] at hok
      contradiction
    · rw [hout] at hok ⊢
      exact h.created hok
  failed {s name stored e} herror := by
    obtain ⟨failure, -, hout⟩ | hout := failing_store fails answer (.createUser name stored) s
    · rw [hout]
    · rw [hout] at herror ⊢
      exact h.failed herror
  duplicate {s name stored} herror := by
    obtain ⟨failure, hf, hout⟩ | hout := failing_store fails answer (.createUser name stored) s
    · rw [hout] at herror
      exact absurd (hf.trans (congrArg some (Except.error.inj herror))) (hfails name stored)
    · rw [hout] at herror
      exact h.duplicate herror
  found {s name user?} hok := by
    obtain ⟨failure, -, hout⟩ | hout := failing_store fails answer (.findByLogin name) s
    · rw [hout] at hok
      contradiction
    · rw [hout] at hok
      exact h.found hok
  others {s q} hq := by
    cases q with
    | now | salt => exact h.others hq
    | store call =>
        obtain ⟨failure, -, hout⟩ | hout := failing_store fails answer call s
        · rw [hout]
        · rw [hout, h.others hq]

/-- A login that is there is refused and nothing changes, or a user is made of one that is not. -/
theorem inMemory_createUser (m : Store.Memory.State) (name stored : String) :
    (∃ other, m.user? name = some other ∧
        inMemory (.store (.createUser name stored)) m = (.error .duplicate, m)) ∨
      ∃ user m', inMemory (.store (.createUser name stored)) m = (.ok user, m') ∧
        m.user? name = none ∧ user.passwordHash = stored ∧
        m'.user? = Function.update m.user? name (some user) := by
  cases hname : m.user? name with
  | some other => exact .inl ⟨other, rfl, Store.Memory.State.createUser_of_some hname ..⟩
  | none =>
      obtain ⟨user, m', hcreate, hpassword, husers⟩ :=
        Store.Memory.State.createUser_of_none hname default stored
      refine .inr ⟨user, m', hcreate, rfl, hpassword, funext fun other => ?_⟩
      rw [husers, Function.update_apply]

/-- The stores in memory keep users. -/
theorem userStore_inMemory : UserStore inMemory Store.Memory.State.user? where
  created {m name stored user} hok := by
    obtain ⟨other, -, hout⟩ | ⟨made, m', hout, hfree, hpassword, husers⟩ :=
      inMemory_createUser m name stored
    · rw [hout] at hok
      contradiction
    · rw [hout] at hok ⊢
      obtain rfl := Except.ok.inj hok
      exact ⟨hfree, hpassword, husers⟩
  failed {m name stored e} herror := by
    obtain ⟨other, -, hout⟩ | ⟨made, m', hout, -⟩ := inMemory_createUser m name stored
    · rw [hout]
    · rw [hout] at herror
      contradiction
  duplicate {m name stored} herror := by
    obtain ⟨other, hother, -⟩ | ⟨made, m', hout, -⟩ := inMemory_createUser m name stored
    · exact ⟨other, hother⟩
    · rw [hout] at herror
      contradiction
  found {m name user?} hok := (Except.ok.inj hok).symm
  others {m q} hq := by
    cases q with
    | now | salt => rfl
    | store call =>
        refine funext fun other =>
          Store.Memory.State.user?_step m default (fun name stored hcall => ?_) other
        exact hq name stored (congrArg Need.store hcall)

/-- No balance can be opened, as when the program is stopping. -/
def unopened : StoreCall → Option StoreError
  | .openBalance _ => some .cancelled
  | _ => none

/-! ## registering again -/

/-- **A failed registration can be repeated unless it came as far as the user**: on all stores that
may fail at any time, with any scheme for passwords and any issuer of tokens that may fail, a
registration that ends in an error

* either created no user, for a reason that its exchanges show, and leaves all users as they were;
  so if the login was free, registering it again on these users, with any password, is not refused
  as taken;
* or created the user, and then failed in the one call that opens a balance or, the balance opened,
  in issuing a token, and the error is that failure.  The login was free and now has that user,
  stored with a hash of this password, and nobody else is touched.  As long as it has, registering
  it again is refused with every password, as taken unless login or password are blank, the password
  cannot be hashed or the call of the stores fails; and logging in with this password, if it is
  found to fit, gives what issuing a token for that user comes to unless the call of the stores
  fails. -/
theorem register_repeatable (h : UserStore answer users) {e : ServiceError}
    (herror : ((register passwords tokens name password).run answer s).1 = .error e) :
    ((∀ stored user, (⟨.store (.createUser name stored), .ok user⟩ : Exchange Need.Answer) ∉
          (register passwords tokens name password).exchanges answer s) ∧
        Refused passwords name password (users s)
          ((register passwords tokens name password).exchanges answer s) e ∧
        users ((register passwords tokens name password).run answer s).2 = users s ∧
        (users s name = none → ∀ s', users s' = users s → ∀ password',
          ((register passwords tokens name password').run answer s').1 ≠ .error loginTaken)) ∨
      ∃ salt user rest,
        (register passwords tokens name password).exchanges answer s =
          ⟨.salt, salt⟩ :: ⟨.store (.createUser name user.passwordHash), .ok user⟩ :: rest ∧
        Continued tokens user.id rest (.error e) ∧
        users s name = none ∧ passwords.hash password salt = .ok user.passwordHash ∧
        users ((register passwords tokens name password).run answer s).2 =
          Function.update (users s) name (some user) ∧
        ∀ s', users s' name = some user →
          (∀ password', ∃ e',
            ((register passwords tokens name password').run answer s').1 = .error e' ∧
              Refused passwords name password' (users s')
                ((register passwords tokens name password').exchanges answer s') e') ∧
          (passwords.verify password user.passwordHash = .ok true →
            LoggedIn tokens name user ((login passwords tokens name password).exchanges answer s')
              ((login passwords tokens name password).run answer s').1) := by
  have hends := h.ends passwords tokens name password s
  rw [herror] at hends
  generalize users ((register passwords tokens name password).run answer s).2 = after at hends ⊢
  generalize (register passwords tokens name password).exchanges answer s = log at hends ⊢
  cases hends with
  | without he =>
      refine .inl ⟨he.not_mem, he, rfl, fun hfree s' hs' password' => ?_⟩
      exact h.ne_loginTaken ((congrFun hs' name).trans hfree) passwords tokens password'
  | created hfilled hfree hhash hstored hr =>
      subst hstored
      exact .inr ⟨_, _, _, rfl, hr, hfree, hhash, rfl, fun s' hs' =>
        ⟨h.refused_of_some hs' passwords tokens,
          fun hverify => h.run_login hs' hfilled hverify tokens⟩⟩

/-- Ann registers with a password in stores that are empty and cannot open balances. -/
def annUnopened : Except ServiceError String × Store.Memory.State :=
  (register plainPasswords (.signed []) "ann" "secret").run (failing unopened inMemory) .empty

/-- Registering while no balance can be opened ends in an error and with the user of the login. -/
theorem register_repeatable_unopened :
    (UserStore (failing unopened inMemory) Store.Memory.State.user? ∧
        annUnopened.1 = .error (.store .cancelled)) ∧
      ∃ user, annUnopened.2.user? "ann" = some user ∧
        (∃ e, ((register plainPasswords (.signed []) "ann" "other").run (failing unopened inMemory)
          annUnopened.2).1 = .error e) ∧
        ∃ now, ((login plainPasswords (.signed []) "ann" "secret").run (failing unopened inMemory)
          annUnopened.2).1 = ((TokenScheme.signed []).issue user.id now).mapError .token := by
  have hstore : UserStore (failing unopened inMemory) Store.Memory.State.user? :=
    userStore_inMemory.failing (by simp [unopened])
  have herror : annUnopened.1 = .error (.store .cancelled) := by decide +kernel
  refine ⟨⟨hstore, herror⟩, ?_⟩
  cases register_repeatable hstore herror with
  | inl hwithout =>
      have hthere : (annUnopened.2.user? "ann").isSome := by decide +kernel
      rw [annUnopened, hwithout.2.2.1] at hthere
      contradiction
  | inr hcreated =>
      obtain ⟨salt, user, -, -, -, -, hhash, husers, hafter⟩ := hcreated
      have huser : annUnopened.2.user? "ann" = some user :=
        (congrFun husers "ann").trans (Function.update_self ..)
      have hstored : Stored plainPasswords "secret" user := ⟨salt, hhash⟩
      obtain ⟨hagain, hlogin⟩ := hafter annUnopened.2 huser
      obtain ⟨e, he, -⟩ := hagain "other"
      refine ⟨user, huser, ⟨e, he⟩, ?_⟩
      have hend := hlogin (by simpa using hstored.verify faithful_plainPasswords "secret")
      have hok : ((login plainPasswords (.signed []) "ann" "secret").run
        (failing unopened inMemory) annUnopened.2).1.isOk := by decide +kernel
      generalize ((login plainPasswords (.signed []) "ann" "secret").run
        (failing unopened inMemory) annUnopened.2).1 = r at hend hok ⊢
      generalize (login plainPasswords (.signed []) "ann" "secret").exchanges
        (failing unopened inMemory) annUnopened.2 = log at hend
      cases hend with
      | failed failure => contradiction
      | found now => exact ⟨now, rfl⟩

/-- Somebody registers while no balance can be opened: the login is taken from then on. -/
theorem register_takes_login_unopened :
    UserStore (failing unopened inMemory) Store.Memory.State.user? ∧
      Store.Memory.State.empty.user? "ann" = none ∧
      annUnopened.1 = .error (.store .cancelled) ∧ (annUnopened.2.user? "ann").isSome ∧
      ((register plainPasswords (.signed []) "ann" "secret").run (failing unopened inMemory)
        annUnopened.2).1 = .error loginTaken := by
  refine ⟨userStore_inMemory.failing (by simp [unopened]), rfl, by decide +kernel,
    by decide +kernel, by decide +kernel⟩

end Loyalty.Account
