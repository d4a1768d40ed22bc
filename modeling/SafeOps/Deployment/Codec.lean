import SafeOps.Deployment
import SafeOps.Payment.Codec

/-!
# `SafeOps.Deployment.Codec`: new accounts and their deployments as JSON
-/

set_option autoImplicit false

namespace SafeOps

/-- Reads the name of a flavour. -/
def Flavour.ofName? (name : String) : Option Flavour :=
  if name = "canonical" then some .canonical else if name = "l2" then some .layer2 else none

/-- Reads a flavour from its field. -/
def Flavour.field (j : Json) : Option Flavour := do
  ofName? (← Json.fieldD j "deployment_type" Json.toText "canonical")

/-- Reads what a new account does while it is set up. -/
def SetupExtras.ofJson? (j : Json) : Option SetupExtras := do
  return {
    approval := ← Json.field? j "approval" Approval.ofJson?
    passkey := ← Json.field? j "passkey" fun p => do
      return (← Json.field p "x" (Json.toQuantity 256), ← Json.field p "y" (Json.toQuantity 256),
        ← Json.field p "verifiers" (Json.toQuantity 176), ()) }

/-- Reads a new account. -/
def NewAccount.ofJson? (j : Json) : Option NewAccount := do
  return {
    owners := ← Json.fields j "owners" Json.toAddress
    threshold := ← Json.fieldD j "threshold" (Json.toQuantity 64) 1
    saltNonce := ← Json.fieldD j "salt_nonce" (Json.toQuantity 256) 0
    version := ← Json.fieldD j "safe_version" Json.toText Config.minimalAccountVersion.text
    flavour := ← Flavour.field j }

/-- Writes a deployment. -/
def Deployment.toJson (d : Deployment) : Json :=
  .obj [
    ("safe_address", Json.ofAddress d.account),
    ("checksummed", .str d.account.checksummed),
    ("factory", Json.ofAddress d.factory),
    ("factory_data", Json.ofBytes d.factoryData),
    ("owners", .arr (d.owners.map Json.ofAddress)),
    ("threshold", Json.ofDecimal d.threshold)]

end SafeOps
