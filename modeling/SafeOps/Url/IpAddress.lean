import SafeOps.Url.Ipv4
import SafeOps.Url.Ipv6

/-!
# `SafeOps.Url.IpAddress`: addresses as texts

The text of an address, by itself, is an IPv4 address of four decimal bytes or an IPv6 address.
The other notations of IPv4 addresses are for the hosts of URLs only.
-/

set_option autoImplicit false

namespace SafeOps

/-- The address that four decimal bytes with points in between stand for. -/
def Ipv4.ofText? (cs : List Char) : Option Ipv4 := do
  match ← (Text.splitOn '.' cs).mapM Ipv6.byte? with
  | [a, b, c, d] => some ⟨BitVec.ofNat 32 (((a * 256 + b) * 256 + c) * 256 + d)⟩
  | _ => none

/-- An address of either kind. -/
inductive IpAddress where
  | v4 (address : Ipv4)
  | v6 (address : Ipv6)
  deriving DecidableEq, Repr

namespace IpAddress

/-- Whether an address belongs to the machine itself. -/
def isLoopback : IpAddress → Bool
  | .v4 address => address.isLoopback
  | .v6 address => address.isLoopback

/-- The address a text stands for. -/
def ofText? (cs : List Char) : Option IpAddress :=
  match Ipv4.ofText? cs with
  | some address => some (.v4 address)
  | none => (Ipv6.ofText? cs).map .v6

end IpAddress

end SafeOps
