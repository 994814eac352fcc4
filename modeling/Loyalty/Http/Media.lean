import Loyalty.Http.Message

/-!
# Loyalty.Http.Media

The types of bodies, as far as it matters whether a body is a JSON document.

A type is two names with a slash between them, in either case; what follows the
last plus of the second name is its suffix.  Parameters may follow, each behind
a semicolon; a type with malformed parameters is none.
-/

namespace Loyalty.Http.Media

/-- The characters of a name that are no letters and no digits; the last two are the apostrophe and
the backquote. -/
def marks : List Char :=
  ['!', '#', '$', '%', '&', '*', '+', '-', '.', '^', '_', '|', '~', Char.ofNat 39, Char.ofNat 96]

/-- A character of a name. -/
def isToken (c : Char) : Bool := c.isAlphanum || marks.contains c

/-- A character between quotes. -/
def isQuotable (c : Char) : Bool := ' ' ≤ c && c ≠ '\x7f'

/-- Where the reading of parameters is. -/
inductive Place
  /-- In front of a name, or in blanks there. -/
  | start
  /-- In a name. -/
  | name
  /-- Behind the sign between a name and its value. -/
  | equals
  /-- In a value without quotes. -/
  | value
  /-- Behind the quote that opens a value. -/
  | opened
  /-- In a value between quotes. -/
  | quoted
  /-- Behind the quote that closes a value. -/
  | closed

/-- The place behind a character. -/
def Place.step (p : Place) (c : Char) : Option Place :=
  match p with
  | start => if c = ' ' then some start else if isToken c then some name else none
  | name => if c = '=' then some equals else if isToken c then some name else none
  | equals => if c = '"' then some opened else if isToken c then some value else none
  | value => if c = ';' then some start else if isToken c then some value else none
  | opened => if isQuotable c then some quoted else none
  | quoted => if c = '"' then some closed else if isQuotable c then some quoted else none
  | closed => if c = ';' then some start else if c = ' ' then some closed else none

/-- Whether parameters may end at a place. -/
def Place.isEnd : Place → Bool
  | start | equals | value | closed => true
  | name | opened | quoted => false

/-- Whether characters are parameters. -/
def areParameters (cs : List Char) : Bool :=
  ((cs.foldlM Place.step Place.start).map Place.isEnd).getD false

/-- Whether the second name of a type is the one of JSON documents: the name itself, in front of the
last plus if there is one, or the suffix. -/
def namesJson (cs : List Char) : Bool :=
  let json := ['j', 's', 'o', 'n']
  let suffix := (cs.reverse.takeWhile (· ≠ '+')).reverse
  let base := (cs.reverse.drop (suffix.length + 1)).reverse
  if base.isEmpty then cs = json else base = json || suffix = json

/-- Whether a type is one of JSON documents. -/
def isJson (value : String) : Bool :=
  let cs := value.toList.map Char.toLower
  let type := cs.takeWhile (· ≠ '/')
  let rest := cs.drop (type.length + 1)
  let subtype := rest.takeWhile (· ≠ ';')
  type = "application".toList && subtype.all isToken && namesJson subtype &&
    areParameters (rest.drop (subtype.length + 1))

/-- Whether the body of a request is said to be a JSON document; the first such header counts. -/
def isJsonRequest (r : Request) : Bool :=
  ((r.headers.first? "content-type").bind headerText?).any isJson

example : isJson "application/problem+json; x=y" = true := by decide +kernel
example : isJson "application/json, text/plain" = false := by decide +kernel

end Loyalty.Http.Media
