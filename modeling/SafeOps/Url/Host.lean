import SafeOps.Text.Utf8
import SafeOps.Url.Domain
import SafeOps.Url.Ipv4
import SafeOps.Url.Ipv6

/-!
# `SafeOps.Url.Host`: hosts

A host is an IPv6 address between brackets, or else a text whose escapes are resolved and
which is mapped like a domain name. If its last label is a number then it has to be an
IPv4 address, otherwise it is a domain name.
-/

set_option autoImplicit false

namespace SafeOps.Url

/-- Why a text is no URL. -/
inductive Fault where
  /-- The text has no scheme. -/
  | relative
  | emptyHost
  | domain
  | port
  | ipv4
  | ipv6
  /-- The host of a scheme without rules of its own has a character no host has. -/
  | opaqueHost
  deriving DecidableEq, Repr

/-- The fault in words. -/
def Fault.message : Fault → String
  | .relative => "relative URL without a base"
  | .emptyHost => "empty host"
  | .domain => "invalid international domain name"
  | .port => "invalid port number"
  | .ipv4 => "invalid IPv4 address"
  | .ipv6 => "invalid IPv6 address"
  | .opaqueHost => "invalid domain character"

/-- A host. -/
inductive Host where
  | domain (name : String)
  | ipv4 (address : Ipv4)
  | ipv6 (address : Ipv6)
  deriving DecidableEq, Repr

namespace Host

/-- The text of a host. -/
def text : Host → String
  | .domain name => name
  | .ipv4 address => address.text
  | .ipv6 address => "[" ++ address.text ++ "]"

/-- Resolves escapes: a percent sign and two hexadecimal digits stand for a byte. -/
def unescape : Bytes → Bytes
  | 37 :: h :: l :: rest =>
    match Text.digit? 16 h.toNat, Text.digit? 16 l.toNat with
    | some high, some low => UInt8.ofNat (16 * high + low) :: unescape rest
    | _, _ => 37 :: unescape (h :: l :: rest)
  | b :: rest => b :: unescape rest
  | [] => []

/-- An IPv6 address between brackets. -/
def bracketed (cs : List Char) : Except Fault Host :=
  if cs.getLast? = some ']' then
    match Ipv6.ofText? (cs.drop 1).dropLast with
    | some address => .ok (.ipv6 address)
    | none => .error .ipv6
  else .error .ipv6

/-- Reads a host. -/
def read (cs : List Char) : Except Fault Host :=
  if cs.head? = some '[' then bracketed cs
  else
    match (Text.Utf8.decode? (unescape (cs.flatMap String.utf8EncodeChar))).bind Domain.ascii? with
    | none => .error .domain
    | some name =>
      if name.isEmpty then .error .emptyHost
      -- A name that looks like an address has to be one.
      else if Ipv4.endsInNumber name then
        match Ipv4.ofHost? name with
        | some address => .ok (.ipv4 address)
        | none => .error .ipv4
      else .ok (.domain (String.ofList name))

/-- The characters no host has. -/
def isForbidden (c : Char) : Bool :=
  "\x00\t\n\r #/:<>?@[\\]^|".toList.contains c

/-- Checks the host of a scheme without rules of its own. -/
def checkOpaque (cs : List Char) : Except Fault Unit :=
  if cs.head? = some '[' then (bracketed cs).map fun _ => ()
  else if cs.any isForbidden then .error .opaqueHost
  else .ok ()

end Host

end SafeOps.Url
