import Loyalty.Store.Database.Host

/-!
# Loyalty.Store.Database.Address

Addresses of database servers.

An address has a scheme and may name a user, a password, a host, a port and a
database, and settings behind a question mark.  Any scheme will do, but the
schemes of the web and of files are strict about hosts and take a backslash for
a slash.  An address that is malformed, has parts that stand for no text, or has
a setting that cannot be, is refused before anything is connected to.
-/

namespace Loyalty.Database.Address

open Text

/-! ## schemes -/

/-- How a scheme is followed by a host. -/
inductive Scheme
  /-- Any number of slashes, and a host that must be there. -/
  | web
  /-- Two slashes if there is a host; there is never a user or a port. -/
  | file
  /-- Two slashes if there is a host. -/
  | plain
  deriving DecidableEq

namespace Scheme

/-- The schemes of the web. -/
def webNames : List String := ["http", "https", "ws", "wss", "ftp"]

/-- The scheme of a name, in either case. -/
def ofName (name : List Char) : Scheme :=
  let name := String.ofList (name.map Char.toLower)
  if webNames.contains name then .web else if name = "file" then .file else .plain

/-- Whether a character ends a path. -/
def endsPath (c : Char) : Bool := c = '?' || c = '#'

/-- Whether a character separates the segments of a path. -/
def isSlash (s : Scheme) (c : Char) : Bool := c = '/' || (s ≠ .plain && c = '\\')

/-- Whether a character ends a user, a host and a port. -/
def endsHost (s : Scheme) (c : Char) : Bool := s.isSlash c || endsPath c

end Scheme

/-- A character of a scheme behind its first. -/
def isSchemeChar (c : Char) : Bool := c.isAlphanum || c = '+' || c = '-' || c = '.'

/-- The scheme, and what follows it and its colon. -/
def cutScheme? (cs : List Char) : Option (Scheme × List Char) :=
  let name := cs.takeWhile (· ≠ ':')
  match cs.drop name.length, name with
  | _ :: rest, c :: _ => if c.isAlpha && name.all isSchemeChar then some (.ofName name, rest)
      else none
  | _, _ => none

/-! ## users, hosts and ports -/

/-- The user in front of the last `@`, and the host and port behind it. -/
def cutUser (cs : List Char) : Option (List Char) × List Char :=
  let host := (cs.reverse.takeWhile (· ≠ '@')).reverse
  if host.length = cs.length then (none, host)
  else (some (cs.take (cs.length - host.length - 1)), host)

/-- Whether a name and a password, with a colon between them, both stand for texts. -/
def isUser (cs : List Char) : Bool :=
  Percent.isText (cs.takeWhile (· ≠ ':')) && Percent.isText (cs.dropWhile (· ≠ ':'))

/-- The host, up to a colon outside of brackets, and what follows it. -/
def cutHost (inBrackets : Bool) : List Char → List Char × List Char
  | [] => ([], [])
  | c :: cs =>
    if c = ':' && !inBrackets then ([], c :: cs)
    else
      let (host, rest) := cutHost (c = '[' || (inBrackets && c ≠ ']')) cs
      (c :: host, rest)

/-- What follows a port, which is a backslash and more if it is anything. -/
def dropPort? (cs : List Char) : Option (List Char) :=
  match cs with
  | ':' :: rest =>
    let digits := rest.takeWhile Char.isDigit
    let rest := rest.drop digits.length
    if 65536 ≤ Digits.toNat digits then none
    else if rest.isEmpty || rest.head? = some '\\' then some rest
    else none
  | rest => some rest

/-- What follows the user, host and port. Who names a user or a port names a host. -/
def dropServer? (s : Scheme) (cs : List Char) : Option (List Char) := do
  let server := cs.takeWhile (!s.endsHost ·)
  let rest := cs.drop server.length
  let (user, place) := cutUser server
  let (host, port) := cutHost false place
  let userNamed := user.any fun user => user ≠ [] && user ≠ [':']
  if server = ['@'] && !rest.isEmpty then none
  else if !user.all isUser then none
  else if host.isEmpty && (s = .web || userNamed || !port.isEmpty) then none
  else if !Host.isHost (s = .web) host then none
  else return (← dropPort? port) ++ rest

/-- Whether characters are a letter and a colon, or what may stand for one. -/
def isDrive (cs : List Char) : Bool :=
  match cs with
  | [letter, mark] => letter.isAlpha && (mark = ':' || mark = '|')
  | _ => false

/-- What follows the host of a file, behind two slashes; a drive is no host. -/
def dropFileHost? (cs : List Char) : Option (List Char) :=
  let host := cs.takeWhile (!Scheme.file.endsHost ·)
  if isDrive host then some cs
  else if host.isEmpty || Host.isHost true host then some (cs.drop host.length)
  else none

/-! ## paths -/

/-- How many dots a segment is, when it is nothing but dots, which may be percent-encoded. -/
def dots? : List Char → Option Nat
  | [] => some 0
  | '.' :: rest => (dots? rest).map (· + 1)
  | '%' :: '2' :: 'e' :: rest | '%' :: '2' :: 'E' :: rest => (dots? rest).map (· + 1)
  | _ => none

/-- The segments of a path, last first, after one more: a dot is dropped, two dots take back what is
in front of them. -/
def addSegment (path : List (List Char)) (segment : List Char) : List (List Char) :=
  match dots? segment with
  | some 1 => path
  | some 2 => path.tail
  | _ => segment :: path

/-- Whether the segments that are left of the path in front of an input all stand for texts. -/
def isPath (s : Scheme) (cs : List Char) : Bool :=
  (((cs.takeWhile (!Scheme.endsPath ·)).splitOnP s.isSlash).foldl addSegment []).all Percent.isText

/-- Whether what is between the scheme and the settings is well formed. -/
def isBody (s : Scheme) (cs : List Char) : Bool :=
  match s, cs with
  | .web, cs => (dropServer? s (cs.dropWhile s.isSlash)).any (isPath s)
  | .file, a :: b :: rest =>
    if s.isSlash a && s.isSlash b then (dropFileHost? rest).any (isPath s) else isPath s cs
  | .file, cs => isPath s cs
  | .plain, '/' :: '/' :: rest => (dropServer? s rest).any (isPath s)
  | .plain, '/' :: rest => isPath s rest
  | .plain, cs => Percent.isText (cs.takeWhile (!Scheme.endsPath ·))

/-! ## settings -/

/-- The ways of using encryption. -/
def sslModes : List String := ["disable", "allow", "prefer", "require", "verify-ca", "verify-full"]

/-- Whether a setting can be. -/
def isSetting (name : String) (value : List Char) : Bool :=
  if name = "sslmode" ∨ name = "ssl-mode" then
    sslModes.contains (String.ofList (value.map Char.toLower))
  else if name = "port" then (Digits.unsigned? 16 value).isSome
  else if name = "statement-cache-capacity" then (Digits.unsigned? 64 value).isSome
  else if name = "hostaddr" then Host.isIpv4 value || Host.isIpv6 value
  else true

/-- The text of a name or a value, in which a plus stands for a blank. -/
def formText (cs : List Char) : List Char :=
  Percent.lossyText (cs.map fun c => if c = '+' then ' ' else c)

/-- Whether all settings can be. They are behind the first question mark. -/
def isQuery (cs : List Char) : Bool :=
  let settings := ((cs.takeWhile (· ≠ '#')).dropWhile (· ≠ '?')).drop 1
  (settings.splitOn '&').all fun setting =>
    let name := setting.takeWhile (· ≠ '=')
    setting.isEmpty || isSetting (String.ofList (formText name))
      (formText (setting.drop (name.length + 1)))

/-! ## addresses -/

/-- Blanks that an address may have around it. -/
def isPadding (c : Char) : Bool := c ≤ ' '

/-- The address without the blanks around it and without the ends of lines and tabs in it. -/
def trimmed (cs : List Char) : List Char :=
  ((cs.dropWhile isPadding).reverse.dropWhile isPadding).reverse.filter fun c =>
    c ≠ '\t' && c ≠ '\n' && c ≠ '\r'

/-- Whether a text is an address. -/
def isAddress (text : String) : Bool :=
  (cutScheme? (trimmed text.toList)).any fun (s, rest) => isBody s rest && isQuery rest

example : isAddress "postgres://user:secret@db:5432/loyalty?sslmode=require" = true := by
  decide +kernel
example : isAddress "postgres://db:port/loyalty" = false := by decide +kernel
example : isAddress "http:user@db/%ff/%2E./loyalty" = true := by decide +kernel

end Loyalty.Database.Address
