import SafeOps.Url.Host

/-!
# `SafeOps.Url`: addresses of services

A URL has a scheme, and one of the web has a host and perhaps a port. What else there is
(who asks, path, query) goes to the service and to nobody else, so it is kept as it was
written and never shown.

Control characters and spaces around a URL do not matter, nor do tabs and line breaks
inside. Schemes of the web take any number of slashes, of either kind, before the host.
-/

set_option autoImplicit false

namespace SafeOps

/-- An address of a service. -/
structure Url where
  /-- The scheme, in lowercase. -/
  scheme : String
  /-- The host, for schemes of the web. -/
  host : Option Url.Host
  /-- The port, unless it is the scheme's own. -/
  port : Option Nat
  /-- Everything after the scheme, as it was written. -/
  rest : String
  deriving DecidableEq, Repr

namespace Url

/-- The rules a scheme follows. -/
inductive Family where
  | web
  | file
  | other
  deriving DecidableEq, Repr

/-- The rules a scheme follows. -/
def familyOf (scheme : String) : Family :=
  if ["http", "https", "ws", "wss", "ftp"].contains scheme then .web
  else if scheme = "file" then .file
  else .other

/-- The port a scheme has by itself. -/
def defaultPort (scheme : String) : Option Nat :=
  if scheme = "http" ∨ scheme = "ws" then some 80
  else if scheme = "https" ∨ scheme = "wss" then some 443
  else if scheme = "ftp" then some 21
  else none

/-- Whether a character does not count at the ends. -/
def isOuter (c : Char) : Bool :=
  c.toNat ≤ 0x20

/-- Whether a character does not count anywhere. -/
def isIgnored (c : Char) : Bool :=
  c == '\t' || c == '\n' || c == '\r'

/-- The characters of a text that count. -/
def significant (cs : List Char) : List Char :=
  ((cs.dropWhile isOuter).reverse.dropWhile isOuter).reverse.filter fun c => !isIgnored c

/-- Whether a character may stand in a scheme after its first letter. -/
def isSchemeChar (c : Char) : Bool :=
  c.isAlphanum || c == '+' || c == '-' || c == '.'

/-- The scheme in lowercase, with the text after its colon. -/
def splitScheme (cs : List Char) : Option (String × List Char) :=
  match cs with
  | [] => none
  | c :: _ =>
    if c.isAlpha then
      match cs.dropWhile isSchemeChar with
      | ':' :: rest => some (String.ofList ((cs.takeWhile isSchemeChar).map Char.toLower), rest)
      | _ => none
    else none

/-- Whether a character ends the part with the host. -/
def endsAuthority (family : Family) (c : Char) : Bool :=
  c == '/' || c == '?' || c == '#' || (family = .web && c == '\\')

/-- The text after the last `@`, with what stands before it if there is one. -/
def splitUser (authority : List Char) : Option (List Char) × List Char :=
  if authority.contains '@' then
    let host := (authority.reverse.takeWhile (· ≠ '@')).reverse
    (some (authority.take (authority.length - host.length - 1)), host)
  else (none, authority)

/-- What stands before the first colon outside brackets, and what follows from there. -/
def splitPort (inBrackets : Bool) : List Char → List Char × List Char
  | [] => ([], [])
  | c :: rest =>
    if c = ':' ∧ inBrackets = false then ([], c :: rest)
    else
      let inside := if c = '[' then true else if c = ']' then false else inBrackets
      let (host, tail) := splitPort inside rest
      (c :: host, tail)

/-- The number of a port; leading zeros do not matter. -/
def readPort (cs : List Char) : Except Fault (Option Nat) :=
  if cs.all Char.isDigit then
    let n := cs.foldl (fun n c => n * 10 + (c.toNat - 48)) 0
    if 65535 < n then .error .port else .ok (if cs.isEmpty then none else some n)
  else .error .port

/-- The port behind a colon, unless it is the scheme's own. A backslash ends it whatever the
scheme. -/
def portOf (scheme : String) : List Char → Except Fault (Option Nat)
  | ':' :: rest => do
    let port ← readPort (rest.takeWhile (· ≠ '\\'))
    return if port = defaultPort scheme then none else port
  | _ => .ok none

/-- The host and the port of a URL of the web. -/
def readWeb (scheme : String) (cs : List Char) :
    Except Fault (Host × Option Nat) := do
  -- Any number of slashes is as good as two.
  let text := cs.dropWhile fun c => c == '/' || c == '\\'
  let (user, authority) := splitUser (text.takeWhile fun c => !endsAuthority .web c)
  let (host, tail) := splitPort false authority
  if (user = some [] ∧ authority.isEmpty) ∨ host.isEmpty then .error .emptyHost
  else
    -- The host is judged before the port.
    let host ← Host.read host
    let port ← portOf scheme tail
    return (host, port)

/-- Whether somebody is named: a colon alone says neither who nor which password. -/
def namesUser : Option (List Char) → Bool
  | none => false
  | some user => !user.isEmpty && user != [':']

/-- Checks the host of a scheme without rules of its own, if there is one. -/
def checkOther (cs : List Char) : Except Fault Unit :=
  match cs with
  -- Only two plain slashes announce a host here.
  | '/' :: '/' :: text => do
    let authority := text.takeWhile fun c => !endsAuthority .other c
    let (user, hostAndPort) := splitUser authority
    -- A lone `@` may end the text, but nothing may follow it.
    if user = some [] ∧ hostAndPort.isEmpty ∧ authority.length < text.length then
      .error .emptyHost
    else
      let (host, tail) := splitPort false hostAndPort
      Host.checkOpaque host
      if host.isEmpty ∧ !tail.isEmpty then .error .emptyHost
      else
        let _ ← portOf "" tail
        -- Who asks is looked at last: somebody has to ask some host.
        if host.isEmpty ∧ namesUser user then .error .emptyHost else .ok ()
  | _ => .ok ()

/-- Whether a text is a drive of a file system rather than a host. -/
def isDrive : List Char → Bool
  | [c, mark] => c.isAlpha && (mark == ':' || mark == '|')
  | _ => false

/-- Checks the host of a file, if there is one. -/
def checkFile (cs : List Char) : Except Fault Unit :=
  let isSlash (c : Char) := c == '/' || c == '\\'
  match cs with
  | a :: b :: text =>
    if isSlash a && isSlash b then
      let host := text.takeWhile fun c => !endsAuthority .web c
      if host.isEmpty || isDrive host then .ok () else (Host.read host).map fun _ => ()
    else .ok ()
  | _ => .ok ()

/-- Reads a URL. -/
def readChars (text : List Char) : Except Fault Url :=
  match splitScheme (significant text) with
  | none => .error .relative
  | some (scheme, cs) =>
    let rest := String.ofList cs
    match familyOf scheme with
    | .web => (readWeb scheme cs).map fun (host, port) => ⟨scheme, some host, port, rest⟩
    | .file => (checkFile cs).map fun _ => ⟨scheme, none, none, rest⟩
    | .other => (checkOther cs).map fun _ => ⟨scheme, none, none, rest⟩

/-- Reads a URL. -/
def read (text : String) : Except Fault Url :=
  readChars text.toList

end Url

end SafeOps
