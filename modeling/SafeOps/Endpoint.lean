import SafeOps.Url
import SafeOps.Url.IpAddress

/-!
# `SafeOps.Endpoint`: services that may be asked

A service is asked over an encrypted connection, or in the clear if it runs on the same
machine. URLs of services often hold secrets, so only the host is ever shown.

* `ofUrl_eq_ok_iff`: which URLs are accepted.
-/

set_option autoImplicit false

namespace SafeOps

/-- Why a URL is not accepted. -/
inductive EndpointFault where
  | malformed (fault : Url.Fault)
  /-- The connection would be in the clear and leave the machine. -/
  | insecure (host : String)
  | scheme (scheme : String)
  deriving DecidableEq, Repr

/-- The fault in words. -/
def EndpointFault.message : EndpointFault → String
  | .malformed fault => "malformed endpoint: " ++ fault.message
  | .insecure host => "endpoint " ++ host ++ " must use https://"
  | .scheme name => "endpoint scheme " ++ name ++ ":// is not supported"

/-- A service that may be asked. -/
structure Endpoint where
  url : Url
  /-- The host, which may be shown. -/
  host : String
  deriving DecidableEq, Repr

namespace Endpoint

/-- The text of a URL's host. -/
def hostText (u : Url) : String :=
  match u.host with
  | some host => host.text
  | none => ""

/-- A text without the brackets around it. -/
def unbracket (cs : List Char) : List Char :=
  ((cs.dropWhile (· = '[')).reverse.dropWhile (· = ']')).reverse

/-- Whether a URL leads to the machine itself, which its host shows as a text. -/
def isLocal (u : Url) : Bool :=
  hostText u = "localhost"
    || (IpAddress.ofText? (unbracket (hostText u).toList)).any IpAddress.isLoopback

/-- Accepts a URL. -/
def ofUrl (u : Url) : Except EndpointFault Endpoint :=
  if u.scheme = "https" ∨ (u.scheme = "http" ∧ isLocal u = true) then .ok ⟨u, hostText u⟩
  else if u.scheme = "http" then .error (.insecure (hostText u))
  else .error (.scheme u.scheme)

/-- Reads and accepts a URL. -/
def read (text : String) : Except EndpointFault Endpoint :=
  match Url.read text with
  | .ok u => ofUrl u
  | .error fault => .error (.malformed fault)

theorem ofUrl_eq_ok_iff (u : Url) :
    ofUrl u = .ok ⟨u, hostText u⟩ ↔
      u.scheme = "https" ∨ (u.scheme = "http" ∧ isLocal u = true) := by
  unfold ofUrl
  split
  · rename_i h
    simp [h]
  · rename_i h
    split <;> simp [h]

end Endpoint

end SafeOps
