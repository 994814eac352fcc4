import Loyalty.Http.Message

/-!
# Loyalty.Http.Resource

The resources of the program, and which methods each has.

Whatever can be got can also be asked for its head alone.
-/

namespace Loyalty.Http

/-- What a request can be about. -/
inductive Resource
  | ping
  | register
  | login
  | orders
  | balance
  | withdraw
  | withdrawals
  deriving DecidableEq

/-- What can be done with a resource. -/
inductive Method
  | get
  | post
  deriving DecidableEq

namespace Resource

/-- All resources. -/
def all : List Resource := [ping, register, login, orders, balance, withdraw, withdrawals]

/-- The path of a resource. -/
def path : Resource → String
  | ping => "/ping"
  | register => "/api/user/register"
  | login => "/api/user/login"
  | orders => "/api/user/orders"
  | balance => "/api/user/balance"
  | withdraw => "/api/user/balance/withdraw"
  | withdrawals => "/api/user/withdrawals"

/-- Resources that only a token opens. -/
def isProtected : Resource → Bool
  | ping | register | login => false
  | orders | balance | withdraw | withdrawals => true

/-- The methods of a resource. -/
def methods : Resource → List Method
  | ping | balance | withdrawals => [.get]
  | register | login | withdraw => [.post]
  | orders => [.post, .get]

/-- The resource of a path. -/
def ofPath? (path : String) : Option Resource := all.find? (·.path = path)

/-- A resource is found at its path. -/
theorem ofPath?_path (r : Resource) : ofPath? r.path = some r := by
  cases r <;> decide +kernel

end Resource

/-- The path of what a request asks for, without a query. -/
def pathOf (target : String) : String :=
  String.ofList (target.toList.takeWhile fun c => c ≠ '?' && c ≠ '#')

/-- The method of a name; the head of something is got like the thing itself. -/
def Method.ofName? (name : String) : Option Method :=
  if name = "GET" ∨ name = "HEAD" then some .get
  else if name = "POST" then some .post
  else none

/-- The names of a method. -/
def Method.names : Method → String
  | get => "GET,HEAD"
  | post => "POST"

/-- The names of methods, as a response lists them. -/
def allowed (methods : List Method) : String := ",".intercalate (methods.map Method.names)

end Loyalty.Http
