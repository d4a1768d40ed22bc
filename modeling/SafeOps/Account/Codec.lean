import SafeOps.Account.Preparation
import SafeOps.Account.Submission
import SafeOps.Contracts.Codec
import SafeOps.Deployment.Codec

/-!
# `SafeOps.Account.Codec`: settings and answers of accounts as JSON

The settings of an account name the account itself by the key `existing` or describe a new
one under the key `new`. What is not plain data, such as the node and the signer, comes
besides.
-/

set_option autoImplicit false

namespace SafeOps

/-- Reads what an identifier is made from. -/
def Analytics.ofJson? (j : Json) : Option Analytics := do
  return {
    project := ← Json.field j "project" Json.toText
    platform := ← Json.field? j "platform" Json.toText }

/-- Reads which account is meant. -/
def AccountChoice.ofJson? (j : Json) : Option AccountChoice := do
  match ← Json.field? j "existing" Json.toAddress with
  | some address => return .existing address
  | none => return .new (← Json.field j "new" NewAccount.ofJson?)

/-- Reads the settings of an account. -/
def AccountConfig.ofJson? (node : Node) (signer : Signer) (registry : Option Registry)
    (estimator : Option Estimator) (bundlerUrl : String) (j : Json) : Option AccountConfig := do
  return {
    node
    signer
    bundlerUrl := ← Json.fieldD j "bundler_url" Json.toText bundlerUrl
    modulesVersion := ← Json.field? j "safe_modules_version" Json.toText
    overrides := ← Json.fieldD j "custom_contracts" Overrides.ofJson? {}
    choice := ← AccountChoice.ofJson? j
    payment := ← Json.field? j "paymaster" Payment.ofJson?
    analytics := ← Json.field? j "analytics" Analytics.ofJson?
    registry
    estimator
    overhead := ← Json.fieldD j "overhead" (Json.toQuantity 64) 10000 }

/-- Reads what a caller chose for one operation. -/
def OperationOptions.ofJson? (j : Json) : Option OperationOptions := do
  return {
    validAfter := ← Json.field? j "valid_after" (Json.toQuantity 64)
    validUntil := ← Json.field? j "valid_until" (Json.toQuantity 64)
    nonce := ← Json.field? j "nonce" (Json.toQuantity 256)
    token := ← Json.field? j "token" Json.toAddress }

/-- Writes what an account works with. -/
def Account.toJson (a : Account) : Json :=
  .obj [
    ("safe", Json.ofAddress a.address),
    ("entry_point", Json.ofAddress a.entryPoint),
    ("chain_id", Json.ofDecimal a.chainId),
    ("contracts", a.contracts.toJson)]

/-- Writes what became of an operation. -/
def Outcome.toJson : Outcome → Json
  | .confirmed r => .obj [("status", .str "confirmed"), ("receipt", r.toJson)]
  | .failed r => .obj [("status", .str "failed"), ("receipt", r.toJson)]

end SafeOps
