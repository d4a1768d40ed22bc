import SafeOps.Contract
import SafeOps.Call
import SafeOps.Json.Codec

/-!
# `SafeOps.Payment`: who pays for gas

Without further ado an account pays for gas itself. A paymaster either sponsors its
operations, perhaps under a policy, or takes a token for them. In the second case the
paymaster may have to be allowed to take the token first.
-/

set_option autoImplicit false

namespace SafeOps

/-- The permission for a spender to take an amount of a token. -/
structure Approval where
  token : Address
  spender : Address
  amount : Word
  deriving DecidableEq, Repr

namespace Approval

/-- The call that grants the permission. -/
def toCall (a : Approval) : Call :=
  .plain a.token (Contract.approve.encode (a.spender, a.amount, ()))

end Approval

/-- How a paymaster comes in. -/
inductive Payment where
  /-- The paymaster pays, under a policy if there is one. -/
  | sponsored (url : String) (policy : Option String)
  /-- The paymaster takes a token, of which it may have to be allowed an amount. -/
  | token (url : String) (paymaster token : Address) (amount : Option Word)
  deriving DecidableEq, Repr

/-- What a paymaster is told besides the operation. -/
structure PaymentContext where
  policy : Option String := none
  token : Option Address := none
  deriving DecidableEq, Repr

namespace PaymentContext

/-- Writes a context. -/
def toJson (c : PaymentContext) : Json :=
  .obj <|
    Json.memberIfSome "sponsorshipPolicyId" .str c.policy
    ++ Json.memberIfSome "token" Json.ofAddress c.token

end PaymentContext

namespace Payment

/-- Where the paymaster is asked. -/
def url : Payment → String
  | .sponsored url _ => url
  | .token url .. => url

/-- Whether the paymaster pays itself. -/
def isSponsored : Payment → Bool
  | .sponsored .. => true
  | .token .. => false

/-- The same with another token. A sponsor takes none. -/
def withToken (token : Address) : Payment → Payment
  | .sponsored url policy => .sponsored url policy
  | .token url paymaster _ amount => .token url paymaster token amount

/-- What the paymaster has to be allowed, if anything. -/
def approval : Payment → Option Approval
  | .token _ paymaster taken (some amount) =>
    if amount = 0 then none else some ⟨taken, paymaster, amount⟩
  | _ => none

/-- What the paymaster is told besides the operation. -/
def context : Payment → PaymentContext
  | .sponsored _ policy => { policy }
  | .token _ _ taken _ => { token := some taken }

end Payment

end SafeOps
