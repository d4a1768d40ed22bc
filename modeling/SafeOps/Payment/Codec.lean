import SafeOps.GasPrice
import SafeOps.Json.Field
import SafeOps.Payment

/-!
# `SafeOps.Payment.Codec`: ways to pay as JSON

A way to pay is an object whose `kind` is `sponsored` or `erc20`, the latter for a token.
-/

set_option autoImplicit false

namespace SafeOps

namespace Approval

/-- Reads a permission. -/
def ofJson? (j : Json) : Option Approval := do
  return {
    token := ← Json.field j "token" Json.toAddress
    spender := ← Json.field j "spender" Json.toAddress
    amount := ← Json.field j "amount" (Json.toQuantity 256) }

/-- Writes a permission. -/
def toJson (a : Approval) : Json :=
  .obj [
    ("token", Json.ofAddress a.token),
    ("spender", Json.ofAddress a.spender),
    ("amount", Json.ofQuantity a.amount)]

end Approval

/-- Reads what a paymaster's service is told. -/
def PaymentContext.ofJson? (j : Json) : Option PaymentContext := do
  return {
    policy := ← Json.field? j "policy" Json.toText
    token := ← Json.field? j "token" Json.toAddress }

/-- Reads a way to pay. -/
def Payment.ofJson? (j : Json) : Option Payment := do
  let url ← Json.field j "url" Json.toText
  match ← Json.field j "kind" Json.toText with
  | "sponsored" => return .sponsored url (← Json.field? j "policy" Json.toText)
  | "erc20" =>
    return .token url (← Json.field j "paymaster" Json.toAddress)
      (← Json.field j "token" Json.toAddress) (← Json.field? j "amount" (Json.toQuantity 256))
  | _ => none

/-- Reads a margin. -/
def PriceMargin.ofJson? (j : Json) : Option PriceMargin := do
  return {
    maxFee := ← Json.fieldD j "max_fee_percent" (Json.toQuantity 64) 150
    maxPriorityFee := ← Json.fieldD j "priority_percent" (Json.toQuantity 64) 150 }

end SafeOps
