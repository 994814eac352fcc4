import Loyalty.Retry
import Loyalty.Text.Blank
import Loyalty.Text.Digits

/-!
# Loyalty.Config

The configuration of the program: command line, environment, defaults.

Every setting has a long flag, some a short one, and a variable of the
environment.  The command line beats the environment, which beats the default.
A value stands behind its flag, as the next argument or in the same one; the
value of a flag that is its own argument is looked at only when the next flag,
or the end, shows that it is complete, so an argument that is no flag at all is
complained of first.

A value that starts with a hyphen is read as a flag, except behind the flag of
the delays, which takes whatever comes next.
-/

namespace Loyalty

open Text

/-! ## settings -/

/-- What can be set. -/
inductive Setting
  | address
  | databaseUri
  | accrualAddress
  | jwtSecret
  | pollInterval
  | retryDelays
  deriving DecidableEq

namespace Setting

/-- All settings, in the order in which the environment is looked at. -/
def all : List Setting :=
  [address, databaseUri, accrualAddress, jwtSecret, pollInterval, retryDelays]

/-- The long flag. -/
def long : Setting → String
  | address => "address"
  | databaseUri => "database-uri"
  | accrualAddress => "accrual-address"
  | jwtSecret => "jwt-secret"
  | pollInterval => "poll-interval-ms"
  | retryDelays => "retry-delays-ms"

/-- The short flag. -/
def short? : Setting → Option Char
  | address => some 'a'
  | databaseUri => some 'd'
  | accrualAddress => some 'r'
  | _ => none

/-- The variable of the environment. -/
def variableName : Setting → String
  | address => "RUN_ADDRESS"
  | databaseUri => "DATABASE_URI"
  | accrualAddress => "ACCRUAL_SYSTEM_ADDRESS"
  | jwtSecret => "JWT_SECRET"
  | pollInterval => "ACCRUAL_POLL_INTERVAL_MS"
  | retryDelays => "STORE_RETRY_DELAYS_MS"

/-- The setting of a long flag. -/
def ofLong? (name : String) : Option Setting := all.find? (·.long = name)

/-- The setting of a short flag. -/
def ofShort? (c : Char) : Option Setting := all.find? (·.short? = some c)

/-- The delays that a value lists. -/
def delays? (value : String) : Option (List Int) :=
  (value.toList.splitOn ',').mapM (Digits.signed? 63)

/-- The number of milliseconds that a value writes. -/
def millis? (value : String) : Option Nat := Digits.unsigned? 64 value.toList

/-- Whether a setting can have a value. -/
def accepts (s : Setting) (value : String) : Bool :=
  match s with
  | pollInterval => (millis? value).isSome
  | retryDelays => (delays? value).isSome
  | _ => true

end Setting

/-- Why there is no configuration. -/
inductive ConfigError
  | missingRequiredArgument
  /-- A flag without its value. -/
  | invalidValue
  /-- A setting with one value given twice. -/
  | argumentConflict
  /-- A value for a flag that takes none. -/
  | tooManyValues
  | unknownArgument
  /-- A value that the setting cannot have. -/
  | valueValidation
  | displayHelp
  | displayVersion
  deriving DecidableEq

/-- What is said to somebody whose settings make no configuration. -/
def ConfigError.message : ConfigError → String
  | missingRequiredArgument => s!"the setting --{Setting.accrualAddress.long} is missing"
  | invalidValue => "a setting has no value"
  | argumentConflict => "a setting is given twice"
  | tooManyValues => "a flag takes no value"
  | unknownArgument => "an argument is not known"
  | valueValidation => "a setting cannot have its value"
  | displayHelp => "Loyalty points backend"
  | displayVersion => "loyalty-api 0.1.0"

/-- Whether somebody asked to be shown something, which is no failure. -/
def ConfigError.isRequest : ConfigError → Bool
  | displayHelp | displayVersion => true
  | _ => false

/-- The configuration. -/
structure Config where
  address : String
  databaseUri : Option String
  accrualAddress : String
  jwtSecret : String
  pollIntervalMs : Nat
  retryDelaysMs : List Int
  deriving DecidableEq

namespace Config

/-! ## the command line -/

/-- The values given to settings, in order. -/
abbrev Given := List (Setting × String)

/-- A value given to a setting: once, except that delays add up. -/
def give (given : Given) (s : Setting) (value : String) : Except ConfigError Given :=
  if s ≠ .retryDelays ∧ given.any (·.1 = s) then .error .argumentConflict
  else if s.accepts value then .ok (given ++ [(s, value)])
  else .error .valueValidation

/-- A flag that was read, and its value if it was read too. -/
abbrev Pending := Option (Setting × Option String)

/-- What a flag that was read comes to. -/
def settle (given : Given) : Pending → Except ConfigError Given
  | none => .ok given
  | some (_, none) => .error .invalidValue
  | some (s, some value) => give given s value

/-- What a flag without value is for. -/
inductive Info
  | help
  | version

/-- The end that a flag without value makes. -/
def Info.error : Info → ConfigError
  | help => .displayHelp
  | version => .displayVersion

/-- A long flag that shows something. -/
def Info.ofLong? (name : String) : Option Info :=
  if name = "help" then some help else if name = "version" then some version else none

/-- A short flag that shows something. -/
def Info.ofShort? (c : Char) : Option Info :=
  if c = 'h' then some help else if c = 'V' then some version else none

/-- An argument that starts with two hyphens: a name, and a value behind the first `=`. -/
def longFlag (given : Given) (pending : Pending) (cs : List Char) :
    Except ConfigError (Given × Pending) := do
  let name := String.ofList (cs.takeWhile (· ≠ '='))
  let value := match cs.dropWhile (· ≠ '=') with
    | [] => none
    | _ :: rest => some (String.ofList rest)
  match Setting.ofLong? name, Info.ofLong? name with
  | some s, _ =>
    let given ← settle given pending
    match value with
    | some value => return (← give given s value, none)
    | none => return (given, some (s, none))
  | none, some info =>
    if value.isSome then .error .tooManyValues
    else
      let _ ← settle given pending
      .error info.error
  | none, none => .error .unknownArgument

/-- An argument that starts with one hyphen: a letter, and a value behind it or behind `=`. -/
def shortFlag (given : Given) (pending : Pending) (c : Char) (cs : List Char) :
    Except ConfigError (Given × Pending) := do
  match Setting.ofShort? c, Info.ofShort? c with
  | some s, _ =>
    let given ← settle given pending
    match cs with
    | [] => return (given, some (s, none))
    | '=' :: value => return (← give given s (String.ofList value), none)
    | value => return (← give given s (String.ofList value), none)
  | none, some info =>
    let _ ← settle given pending
    .error info.error
  | none, none => .error .unknownArgument

/-- The arguments from one on: nothing may follow a lone `--`. -/
def readArgs (given : Given) (pending : Pending) : List String → Except ConfigError Given
  | [] => settle given pending
  | arg :: args =>
    match pending, arg.toList with
    | some (.retryDelays, none), _ => readArgs given (some (.retryDelays, some arg)) args
    | pending, ['-', '-'] => if args.isEmpty then settle given pending else .error .unknownArgument
    | pending, '-' :: '-' :: cs => do
      let (given, pending) ← longFlag given pending cs
      readArgs given pending args
    | pending, '-' :: c :: cs => do
      let (given, pending) ← shortFlag given pending c cs
      readArgs given pending args
    | some (s, none), _ => readArgs given (some (s, some arg)) args
    | _, _ => .error .unknownArgument

/-! ## the environment and the defaults -/

/-- A setting that the command line left alone, taken from the environment. -/
def readVariable (env : List (String × String)) (given : Given) (s : Setting) :
    Except ConfigError Given :=
  if given.any (·.1 = s) then .ok given
  else
    match env.find? (·.1 = s.variableName) with
    | some (_, value) => give given s value
    | none => .ok given

/-- The signing secret when none is set, fit for trying the program out. -/
def devSecret : String := "loyalty-dev-secret"

/-- The address when none is set. -/
def defaultAddress : String := "0.0.0.0:8080"

/-- The value of a setting. -/
def value? (given : Given) (s : Setting) : Option String := (given.find? (·.1 = s)).map (·.2)

/-- The configuration of values given to settings. -/
def ofGiven (given : Given) : Except ConfigError Config :=
  match value? given .accrualAddress with
  | none => .error .missingRequiredArgument
  | some accrualAddress =>
    let delays := (given.filter (·.1 = .retryDelays)).flatMap fun g => (Setting.delays? g.2).getD []
    .ok {
      address := (value? given .address).getD defaultAddress
      databaseUri := value? given .databaseUri
      accrualAddress
      jwtSecret := (value? given .jwtSecret).getD devSecret
      pollIntervalMs := ((value? given .pollInterval).bind Setting.millis?).getD 1000
      retryDelaysMs := if delays.isEmpty then [1000, 3000, 5000] else delays }

/-- The configuration of a command line, without the name of the program, and an environment. -/
def parse (args : List String) (env : List (String × String)) : Except ConfigError Config := do
  let given ← readArgs [] none args
  ofGiven (← Setting.all.foldlM (readVariable env) given)

/-! ## what follows from it -/

/-- The address to listen on; without a host it is one of every interface. -/
def listenAddress (c : Config) : String :=
  if c.address.startsWith ":" then "0.0.0.0" ++ c.address else c.address

/-- The database, if one is set and not blank. -/
def database? (c : Config) : Option String :=
  (c.databaseUri.map trim).filter (· ≠ "")

/-- The base address of the accrual service, with a scheme. -/
def accrualBaseUrl (c : Config) : String :=
  let address := trim c.accrualAddress
  if address.startsWith "http://" || address.startsWith "https://" then address
  else "http://" ++ address

/-- Whether tokens are signed with a secret that everybody knows. -/
def usesDevSecret (c : Config) : Bool := c.jwtSecret = devSecret

/-- The time between two passes over the pending orders, in milliseconds, at least one. -/
def pollInterval (c : Config) : Nat := max c.pollIntervalMs 1

/-- The retry policy of the stores. -/
def retryPolicy {ε : Type} (c : Config) : RetryPolicy ε := .ofMillis c.retryDelaysMs

end Config

end Loyalty
