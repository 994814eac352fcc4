import Loyalty.Proofs.System.Accounts
import Loyalty.Proofs.System.Following

/-!
# Loyalty.Proofs.System.Registration

Who registers a login is its user, for good, and logging in says so.

Users come from registrations alone, one each (`Enrolled`), and no step changes
the user of a login that there is (`Step.keepsUsers`).  So whoever logs in after
a registration has ended finds the user that it came to, with the password that
it was given (`LoggingIn.reaches`).
-/

namespace Loyalty.System

open Accrual Store Store.Memory

/-! ## all requests of a system -/

/-- The login that a request came to a user under, if it registers and has come so far. -/
def Client.registered? : Client → Option String
  | ⟨.register name _, rest⟩ => entered? name rest
  | _ => none

/-- What is known of a request that is under way. -/
inductive Client.Credible (passwords : PasswordScheme) (secret : List UInt8) (m : Memory.State) :
    Client → Prop
  | registration {name password : String} {rest : UseCase String}
      (h : Registering passwords secret m name password rest) :
      Credible passwords secret m ⟨.register name password, rest⟩
  | other {action : Action} {rest : UseCase action.Result}
      (hother : ∀ name password, action ≠ .register name password) (h : rest.Asks action.Needs) :
      Credible passwords secret m ⟨action, rest⟩

namespace Client

variable {passwords : PasswordScheme} {secret : List UInt8} {m m' : Memory.State} {c : Client}
  {name : String}

theorem Credible.mono (h : c.Credible passwords secret m) (hm : KeepsUsers m m') :
    c.Credible passwords secret m' := by
  cases h with
  | registration h => exact .registration (h.mono hm)
  | other hother h => exact .other hother h

theorem registered?_of_ne_register {action : Action}
    (hother : ∀ name password, action ≠ .register name password) (rest : UseCase action.Result) :
    (⟨action, rest⟩ : Client).registered? = none := by
  cases action with
  | register name password => exact absurd rfl (hother name password)
  | _ => rfl

/-- A registration stands where it has come to. -/
theorem Credible.registering {password : String} {rest : UseCase String}
    (h : Credible passwords secret m ⟨.register name password, rest⟩) :
    Registering passwords secret m name password rest := by
  cases h with
  | registration h => exact h
  | other hother => exact absurd rfl (hother name password)

/-- Who holds a login registers it, with the password that is stored. -/
theorem Credible.exists_stored (h : c.Credible passwords secret m)
    (hheld : c.registered? = some name) :
    ∃ password rest user, c = ⟨.register name password, rest⟩ ∧ m.user? name = some user ∧
      Stored passwords password user := by
  cases h with
  | @registration name' password rest h =>
      obtain ⟨rfl, user, huser, hstored⟩ := h.exists_stored hheld
      exact ⟨password, rest, user, rfl, huser, hstored⟩
  | other hother =>
      rw [registered?_of_ne_register hother] at hheld
      contradiction

/-- A request that has not asked anything yet. -/
theorem Credible.program (passwords : PasswordScheme) (secret : List UInt8) (m : Memory.State)
    (action : Action) :
    Credible passwords secret m ⟨action, action.program passwords (.signed secret)⟩ := by
  have hasks := action.asks_program passwords (.signed secret)
  cases action with
  | register name password =>
      exact .registration (registering_register passwords secret m name password)
  | _ => exact .other nofun hasks

/-- What one answer does to a request and to the users. -/
theorem Credible.answer {t t' : Trace} (hpasswords : passwords.Faithful)
    (h : c.Credible passwords secret t.state) {q : Need}
    {next : q.Answer → UseCase c.action.Result} {r : q.Answer} (hasks : c.rest = .ask q next)
    (hserves : Serves t q r t') :
    (⟨c.action, next r⟩ : Client).Credible passwords secret t'.state ∧
      Admits t.state t'.state c.registered? (⟨c.action, next r⟩ : Client).registered? := by
  cases h with
  | @registration name password rest h =>
      have hasking : Registering passwords secret t.state name password (.ask q next) := hasks ▸ h
      have hheld :
          (⟨.register name password, rest⟩ : Client).registered? = entered? name (.ask q next) :=
        congrArg (entered? name) hasks
      obtain ⟨hregistering, hadmits⟩ := hasking.answer hpasswords hserves
      rw [hheld]
      exact ⟨.registration hregistering, hadmits⟩
  | @other action rest hother h =>
      obtain ⟨hneeds, hrest⟩ := h.of_ask hasks
      rw [registered?_of_ne_register hother, registered?_of_ne_register hother]
      refine ⟨.other hother (hrest r), ?_⟩
      cases hserves.trace_eq hneeds with
      | inl hsame =>
          rw [hsame]
          exact .nobody fun _ => rfl
      | inr hcall =>
          obtain ⟨stamp, call, hmakes, rfl⟩ := hcall
          have hcreates : ∀ login hash, call ≠ .createUser login hash := by
            rintro login hash rfl
            cases hmakes
            exact hother _ _ rfl
          exact .nobody (State.user?_step t.state stamp hcreates)

end Client

/-- What the worker asks touches no user. -/
theorem Tells.user?_eq {w : Setting} {t t' : Trace} {stage stage' : Stage} {q : Question}
    {r : q.Answer} (hmoves : stage.Moves q r stage') (h : Tells w t q r t') (name : String) :
    t'.state.user? name = t.state.user? name := by
  obtain rfl | ⟨stamp, call, answer, hmoves, rfl⟩ := h.trace_eq_of_moves hmoves
  · rfl
  · have hcreates : ∀ login hash, call ≠ .createUser login hash := by
      rintro login hash rfl
      cases hmoves
    exact State.user?_step t.state stamp hcreates name

/-! ## the invariant -/

/-- What holds of the requests of a system and of the users that they came to. -/
structure Enrolled (passwords : PasswordScheme) (secret : List UInt8) (s : State) : Prop where
  credible : ∀ i, (s.clients i).Credible passwords secret s.trace.state
  held : Held (fun name => (s.trace.state.user? name).isSome) fun i => (s.clients i).registered?

namespace Enrolled

variable {w : Setting} {passwords : PasswordScheme} {secret : List UInt8} {s s' : State}
  {stage stage' : Stage}

theorem start (htokens : w.tokens = .signed secret) : Enrolled w.passwords secret (start w) := by
  have hcredible :
      ∀ i, ((System.start w).clients i).Credible w.passwords secret Memory.State.empty := by
    intro i
    have hprogram := Client.Credible.program w.passwords secret .empty (w.action i)
    rw [← htokens] at hprogram
    exact hprogram
  have hnone : ∀ i name, ((System.start w).clients i).registered? ≠ some name := by
    intro i name hheld
    obtain ⟨-, -, user, -, huser, -⟩ := (hcredible i).exists_stored hheld
    cases huser
  exact {
    credible := hcredible
    held := { unique := nofun, there := fun hheld => absurd hheld (hnone _ _) } }

/-- A step in which no user is touched. -/
theorem quiet (h : Enrolled passwords secret s) (hclients : s'.clients = s.clients)
    (husers : ∀ name, s'.trace.state.user? name = s.trace.state.user? name) :
    Enrolled passwords secret s' where
  credible i := by
    rw [hclients]
    exact (h.credible i).mono fun name _ huser => (husers name).trans huser
  held := by
    rw [hclients]
    exact h.held.congr fun name => by rw [husers]

/-- A step of a request, which may have come to a user. -/
theorem client (hpasswords : passwords.Faithful) (h : Enrolled passwords secret s) {i : ℕ}
    {q : Need} {next : q.Answer → UseCase (s.clients i).action.Result} {r : q.Answer} {t : Trace}
    (hasks : (s.clients i).rest = .ask q next) (hserves : Serves s.trace q r t) :
    Enrolled passwords secret
      { s with
        trace := t, clients := Function.update s.clients i ⟨(s.clients i).action, next r⟩ } := by
  obtain ⟨hcredible, hadmits⟩ := (h.credible i).answer hpasswords hasks hserves
  have hheld :
      (fun j => (Function.update s.clients i ⟨(s.clients i).action, next r⟩ j).registered?) =
      Function.update (fun j => (s.clients j).registered?) i
        (⟨(s.clients i).action, next r⟩ : Client).registered? :=
    Function.comp_update Client.registered? s.clients i _
  have hcredibles : ∀ j,
      (Function.update s.clients i ⟨(s.clients i).action, next r⟩ j).Credible passwords secret
        t.state :=
    (Function.forall_update_iff s.clients fun _ c => c.Credible passwords secret t.state).mpr
      ⟨hcredible, fun j _ => (h.credible j).mono hadmits.keeps⟩
  exact { credible := hcredibles, held := by simp only [hheld]; exact h.held.admit hadmits }

theorem advance (hpasswords : passwords.Faithful) (h : Enrolled passwords secret s)
    (hadvance : Advance w s stage s' stage') : Enrolled passwords secret s' := by
  cases hadvance with
  | client hasks hserves => exact h.client hpasswords hasks hserves
  | worker hmoves htells => exact h.quiet rfl (htells.user?_eq hmoves)
  | tick => exact h.quiet rfl fun _ => rfl

/-- Every user is the one that a registration came to, stored with its password. -/
theorem exists_registration (h : Enrolled passwords secret s) {name : String} {user : User}
    (huser : s.trace.state.user? name = some user) :
    ∃ i password rest, s.clients i = ⟨.register name password, rest⟩ ∧
      entered? name rest = some name ∧
      Stored passwords password user := by
  obtain ⟨i, hheld, -⟩ := h.held.unique (k := name) (by rw [huser]; rfl)
  obtain ⟨password, rest, user', hclient, huser', hstored⟩ := (h.credible i).exists_stored hheld
  obtain rfl := Option.some.inj (huser.symm.trans huser')
  rw [hclient] at hheld
  exact ⟨i, password, rest, hclient, hheld, hstored⟩

variable {i j : ℕ} {name password password' token token' : String} {r : Except ServiceError String}

theorem registering (h : Enrolled passwords secret s)
    (hended : s.Answered i (.register name password) r) :
    Registering passwords secret s.trace.state name password (.done r) := by
  have hcredible := h.credible i
  rw [hended] at hcredible
  exact hcredible.registering

/-- Of all registrations of a login one has a token. -/
theorem eq_of_answered (h : Enrolled passwords secret s)
    (hi : s.Answered i (.register name password) (.ok token))
    (hj : s.Answered j (.register name password') (.ok token')) : j = i := by
  have hheld : (s.clients i).registered? = some name := by
    rw [hi]
    rfl
  have hheld' : (s.clients j).registered? = some name := by
    rw [hj]
    rfl
  exact (h.held.unique (h.held.there hheld)).unique hheld' hheld

/-- Who is told that a login is taken is told of another registration. -/
theorem exists_other (h : Enrolled passwords secret s) {message : String}
    (hi : s.Answered i (.register name password) (.error (.domain (.conflict message)))) :
    ∃ j, j ≠ i ∧ (s.clients j).registered? = some name := by
  obtain ⟨j, hj, -⟩ := h.held.unique (h.registering hi).of_done_conflict
  refine ⟨j, ?_, hj⟩
  rintro rfl
  rw [hi] at hj
  cases hj

end Enrolled

/-- In every run users come from registrations, one each. -/
theorem Run.enrolled {w : Setting} {s : State} {stage : Stage} {secret : List UInt8}
    (h : Run w s stage) (hpasswords : w.passwords.Faithful) (htokens : w.tokens = .signed secret) :
    Enrolled w.passwords secret s := by
  induction h with
  | start => exact .start htokens
  | step _ hadvance ih => exact ih.advance hpasswords hadvance

/-! ## runs -/

section

variable {w : Setting} {s s' : State}

/-- Whatever is asked of the stores, the users that there are stay. -/
theorem keepsUsers_of_trace {t t' : Trace} (h : t' = t ∨ ∃ request, t' = t.ask request) :
    KeepsUsers t.state t'.state := by
  obtain rfl | ⟨request, rfl⟩ := h
  · exact .refl _
  · exact fun _ _ huser => State.user?_of_some huser request.stamp request.call

theorem Serves.keepsUsers {t t' : Trace} {q : Need} {r : q.Answer} (h : Serves t q r t') :
    KeepsUsers t.state t'.state := by
  cases q with
  | store call =>
      obtain ⟨stamp, ht, -⟩ := h
      exact keepsUsers_of_trace (.inr ⟨⟨stamp, call⟩, ht⟩)
  | now | salt => exact keepsUsers_of_trace (.inl h)

/-- No step changes the user of a login that there is. -/
theorem Step.keepsUsers (h : Step w s s') : KeepsUsers s.trace.state s'.trace.state := by
  cases h with
  | client hasks hserves => exact hserves.keepsUsers
  | worker hasks htells => exact keepsUsers_of_trace htells.trace_eq
  | tick => exact .refl _

theorem Reaches.keepsUsers (h : Reaches w s s') : KeepsUsers s.trace.state s'.trace.state := by
  induction h with
  | refl => exact .refl _
  | tail _ hstep ih => exact ih.trans hstep.keepsUsers

variable {secret : List UInt8} {m₀ : Memory.State} {i : ℕ} {name password : String}

/-- What one answer makes of a request that is logging in. -/
theorem LoggingIn.client {passwords : PasswordScheme} {c : Client} {rest : UseCase String}
    {t t' : Trace} (hpasswords : passwords.Faithful) (hm₀ : KeepsUsers m₀ t.state)
    (hkept : ∀ user, t.state.user? name = some user → ∃ stored, Stored passwords stored user)
    (h : LoggingIn passwords secret m₀ t.state name password rest)
    (hc : c = ⟨.login name password, rest⟩) {q : Need} {next : q.Answer → UseCase c.action.Result}
    {r : q.Answer} (hasks : c.rest = .ask q next) (hserves : Serves t q r t') :
    ∃ rest', (⟨c.action, next r⟩ : Client) = ⟨.login name password, rest'⟩ ∧
      LoggingIn passwords secret m₀ t'.state name password rest' := by
  subst hc
  have hasking : LoggingIn passwords secret m₀ t.state name password (.ask q next) := hasks ▸ h
  exact ⟨next r, rfl, hasking.answer hpasswords hm₀ hkept hserves⟩

/-- Logging in goes on as it began, whatever else is going on. -/
theorem LoggingIn.reaches (hpasswords : w.passwords.Faithful)
    (htokens : w.tokens = .signed secret) (hs : Reachable w s) (hm₀ : KeepsUsers m₀ s.trace.state)
    {rest : UseCase String} (hclient : s.clients i = ⟨.login name password, rest⟩)
    (h : LoggingIn w.passwords secret m₀ s.trace.state name password rest)
    (hreaches : Reaches w s s') :
    ∃ rest', s'.clients i = ⟨.login name password, rest'⟩ ∧
      LoggingIn w.passwords secret m₀ s'.trace.state name password rest' := by
  induction hreaches with
  | refl => exact ⟨rest, hclient, h⟩
  | @tail s₁ s₂ hreaches hstep ih =>
      obtain ⟨rest₁, hclient₁, h₁⟩ := ih
      have hkeeps := hstep.keepsUsers
      cases hstep with
      | @client j q next r t hasks hserves =>
          by_cases hj : i = j
          · subst hj
            obtain ⟨stage, hrun, -⟩ := (hs.reaches hreaches).run
            have henrolled := hrun.enrolled hpasswords htokens
            have hkept : ∀ user, s₁.trace.state.user? name = some user →
                ∃ stored, Stored w.passwords stored user := by
              intro user huser
              obtain ⟨-, stored, -, -, -, hstored⟩ := henrolled.exists_registration huser
              exact ⟨stored, hstored⟩
            obtain ⟨rest₂, hclient₂, h₂⟩ :=
              h₁.client hpasswords (hm₀.trans (Reaches.keepsUsers hreaches)) hkept hclient₁
                hasks hserves
            exact ⟨rest₂, (Function.update_self ..).trans hclient₂, h₂⟩
          · exact ⟨rest₁, (Function.update_of_ne hj ..).trans hclient₁, h₁.mono hkeeps⟩
      | worker => exact ⟨rest₁, hclient₁, h₁.mono hkeeps⟩
      | tick => exact ⟨rest₁, hclient₁, h₁⟩

/-- Everything that a system comes to, it comes to from its start. -/
theorem Reachable.reaches_start (h : Reachable w s) : Reaches w (System.start w) s := by
  induction h with
  | start => exact .refl
  | step _ hstep ih => exact ih.tail hstep

/-- Who asks for something goes on asking for it. -/
theorem Reachable.action_eq (h : Reachable w s) (i : ℕ) : (s.clients i).action = w.action i := by
  induction h with
  | start => rfl
  | @step s s' _ hstep ih =>
      cases hstep with
      | @client j q next r t hasks hserves =>
          have hsame : (Function.update s.clients j ⟨(s.clients j).action, next r⟩ i).action =
              (s.clients i).action := by
            by_cases hj : i = j
            · rw [hj, Function.update_self]
            · rw [Function.update_of_ne hj]
          exact hsame.trans ih
      | worker => exact ih
      | tick => exact ih

/-- Where logging in has ended, it came there from its beginning. -/
theorem Reachable.loggingIn_of_begun (h : Reachable w s) (hpasswords : w.passwords.Faithful)
    (htokens : w.tokens = .signed secret)
    (hclient : s.clients i =
      ⟨.login name password, Account.login w.passwords (.signed secret) name password⟩)
    (hreaches : Reaches w s s') {r : Except ServiceError String}
    (hended : s'.Answered i (.login name password) r) :
    LoggingIn w.passwords secret s.trace.state s'.trace.state name password (.done r) := by
  obtain ⟨rest, hrest, hlogging⟩ := LoggingIn.reaches hpasswords htokens h (.refl _) hclient
    (loggingIn_login w.passwords secret _ _ name password) hreaches
  rw [State.Answered, hrest] at hended
  cases hended
  exact hlogging

theorem Reachable.loggingIn (h : Reachable w s) (hpasswords : w.passwords.Faithful)
    (htokens : w.tokens = .signed secret) {r : Except ServiceError String}
    (hended : s.Answered i (.login name password) r) :
    LoggingIn w.passwords secret .empty s.trace.state name password (.done r) := by
  have haction : w.action i = .login name password := by rw [← h.action_eq i, hended]
  have hclient : (System.start w).clients i =
      ⟨.login name password, Account.login w.passwords (.signed secret) name password⟩ := by
    change Client.mk (w.action i) _ = _
    rw [haction, htokens]
    rfl
  exact Reachable.start.loggingIn_of_begun hpasswords htokens hclient h.reaches_start hended

/-! ## logins -/

/-- **Logging in goes by what registering recorded**: if what is stored of a password fits that
password alone, then whatever the interleaving of the requests of users with each other and with the
worker, in every state that a system can come to

* a registration that has ended was refused if its login is blank or its password empty, and
  otherwise has a token, or a conflict with another registration; of all registrations of a login at
  most one has a token;
* a login has a user exactly when a registration has come to it, which is one; that user was stored
  with the password of this registration, and stays as it is for good, identifier and stored
  password included;
* a registration that has a token recorded a user with its password, to whom the token was issued;
  whoever begins to log in under that login from then on can come to an end without anybody else,
  and comes to a token exactly if the password is that one, which was issued to that same user;
* logging in with a login that nobody has, or with a password that is not the one stored, is
  unauthorized unless the login is blank or the password empty, and whoever has a token has it for
  the user whose login and password these are. -/
theorem Reachable.login_as_registered (h : Reachable w s) (hpasswords : w.passwords.Faithful)
    (htokens : w.tokens = .signed secret) :
    (∀ i name q r, s.Answered i (.register name q) r →
      (¬ Filled name q → r = .error (.domain (.validation "login and password are required"))) ∧
      (Filled name q → (∃ token, r = .ok token) ∨
        r = .error (.domain (.conflict "login already taken"))) ∧
      (∀ message, r = .error (.domain (.conflict message)) → ∃ j, j ≠ i ∧
        (s.clients j).registered? = some name) ∧
      ∀ token, r = .ok token → ∀ j p token', s.Answered j (.register name p) (.ok token') → j = i) ∧
    (Held (fun name => (s.trace.state.user? name).isSome) fun i => (s.clients i).registered?) ∧
    (∀ name user, s.trace.state.user? name = some user →
      (∃ i q rest, s.clients i = ⟨.register name q, rest⟩ ∧ entered? name rest = some name ∧
        Stored w.passwords q user) ∧
      ∀ s', Reaches w s s' → s'.trace.state.user? name = some user) ∧
    (∀ i name q token, s.Answered i (.register name q) (.ok token) →
      ∃ user, s.trace.state.user? name = some user ∧ Stored w.passwords q user ∧
        IssuedTo w.tokens user.id token ∧
        ∀ j p, s.clients j = ⟨.login name p, Account.login w.passwords w.tokens name p⟩ →
          (∃ s' r, Reaches w s s' ∧ s'.Answered j (.login name p) r ∧ ∀ k, k ≠ j →
            s'.clients k = s.clients k) ∧
          ∀ s' r, Reaches w s s' → s'.Answered j (.login name p) r →
            ((∃ token', r = .ok token') ↔ p = q) ∧ ∀ token', r = .ok token' →
              IssuedTo w.tokens user.id token') ∧
    ∀ j name p r, s.Answered j (.login name p) r →
      (¬ Filled name p → r = .error (.domain (.validation "login and password are required"))) ∧
      (Filled name p →
        (s.trace.state.user? name = none → r = .error (.domain .unauthorized)) ∧
        (∀ user q, s.trace.state.user? name = some user → Stored w.passwords q user → p ≠ q →
          r = .error (.domain .unauthorized)) ∧
        (r = .error (.domain .unauthorized) ∨ ∃ user token, s.trace.state.user? name = some user ∧
          Stored w.passwords p user ∧ r = .ok token ∧ IssuedTo w.tokens user.id token)) := by
  obtain ⟨stage, hrun, -⟩ := h.run
  have henrolled := hrun.enrolled hpasswords htokens
  refine ⟨?_, henrolled.held, fun name user huser => ?_, ?_, ?_⟩
  · intro i name q r hended
    have hregistering := henrolled.registering hended
    refine ⟨hregistering.refused_of_done, hregistering.of_done, ?_, ?_⟩
    · rintro message rfl
      exact henrolled.exists_other hended
    · rintro token rfl j p token' hended'
      exact henrolled.eq_of_answered hended hended'
  · exact ⟨henrolled.exists_registration huser, fun s' hreaches => hreaches.keepsUsers huser⟩
  · intro i name q token hended
    obtain ⟨hfilled, user, huser, hstored, hissued⟩ := (henrolled.registering hended).of_done_ok
    rw [htokens]
    refine ⟨user, huser, hstored, hissued, fun j p hclient => ⟨exists_answered w _ hclient, ?_⟩⟩
    intro s' r hreaches hended'
    have hlogging := h.loggingIn_of_begun hpasswords htokens hclient hreaches hended'
    exact hlogging.ok_iff hpasswords hreaches.keepsUsers huser hstored hfilled
  · intro j name p r hended
    have hlogging := h.loggingIn hpasswords htokens hended
    refine ⟨hlogging.refused_of_done, fun hfilled => ?_⟩
    obtain ⟨rfl, -⟩ | ⟨user, token, huser, hstored, rfl, hissued⟩ := hlogging.of_done hfilled
    · exact ⟨fun _ => rfl, fun _ _ _ _ _ => rfl, .inl rfl⟩
    · refine ⟨fun hnobody => ?_, fun user' q huser' hstored' hne => ?_,
        .inr ⟨user, token, huser, hstored, rfl, ?_⟩⟩
      · rw [hnobody] at huser
        contradiction
      · rw [huser] at huser'
        obtain rfl := Option.some.inj huser'
        exact absurd (hstored.unique hstored' hpasswords) hne
      · rw [htokens]
        exact hissued

end

/-- One registers, and two log in, one of them with another password. -/
theorem Reachable.login_as_registered_ann :
    ∃ (w : Setting) (s : State) (user : User) (token : String), Reachable w s ∧
      s.Answered 0 (.register "ann" "secret") (.ok token) ∧ s.trace.state.user? "ann" = some user ∧
      IssuedTo w.tokens user.id token ∧
      (∃ s' token', Reaches w s s' ∧ s'.Answered 1 (.login "ann" "secret") (.ok token') ∧
        IssuedTo w.tokens user.id token') ∧
      ∃ s', Reaches w s s' ∧
        s'.Answered 2 (.login "ann" "Secret") (.error (.domain .unauthorized)) := by
  let w : Setting :=
    { Setting.constant (.ok .notRegistered) with
      passwords := plainPasswords
      tokens := .signed [1, 2, 3]
      action := fun
        | 0 => .register "ann" "secret"
        | 1 => .login "ann" "secret"
        | _ => .login "ann" "Secret" }
  have hname : Text.isBlankText "ann" = false := by decide +kernel
  have hothers : ∀ i, i ≠ 0 → ((System.start w).clients i).registered? = none := by
    intro i hi
    match i with
    | 0 => exact absurd rfl hi
    | 1 => rfl
    | i + 2 => rfl
  have hclient : (System.start w).clients 0 =
      ⟨.register "ann" "secret", Account.register w.passwords w.tokens "ann" "secret"⟩ := rfl
  obtain ⟨s, r, hreaches, hended, hsame⟩ := exists_answered w _ hclient
  have h : Reachable w s := Reachable.start.reaches hreaches
  obtain ⟨hregistered, -, hstays, hlogin, -⟩ := h.login_as_registered faithful_plainPasswords rfl
  obtain ⟨-, hends, htaken, -⟩ := hregistered 0 "ann" "secret" r hended
  obtain ⟨token, rfl⟩ | rfl := hends ⟨hname, by decide⟩
  · obtain ⟨user, huser, hstored, hissued, hafter⟩ := hlogin 0 "ann" "secret" token hended
    obtain ⟨⟨s₁, r₁, hreaches₁, hended₁, -⟩, hright⟩ := hafter 1 "secret" (hsame 1 (by decide))
    obtain ⟨hiff, hissued₁⟩ := hright s₁ r₁ hreaches₁ hended₁
    obtain ⟨token₁, rfl⟩ := hiff.mpr rfl
    obtain ⟨⟨s₂, r₂, hreaches₂, hended₂, -⟩, -⟩ := hafter 2 "Secret" (hsame 2 (by decide))
    obtain ⟨-, -, -, -, hlogins⟩ :=
      (h.reaches hreaches₂).login_as_registered faithful_plainPasswords rfl
    obtain ⟨-, hwrong, -⟩ := (hlogins 2 "ann" "Secret" r₂ hended₂).2 ⟨hname, by decide⟩
    obtain rfl :=
      hwrong user "secret" ((hstays "ann" user huser).2 s₂ hreaches₂) hstored (by decide)
    exact ⟨w, s, user, token, h, hended, huser, hissued,
      ⟨s₁, token₁, hreaches₁, hended₁, hissued₁ token₁ rfl⟩, s₂,
      hreaches₂, hended₂⟩
  · obtain ⟨j, hj, hheld⟩ := htaken _ rfl
    rw [hsame j hj, hothers j hj] at hheld
    contradiction

end Loyalty.System
