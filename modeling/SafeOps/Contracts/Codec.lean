import SafeOps.Contracts
import SafeOps.Json.Field

/-!
# `SafeOps.Contracts.Codec`: contracts as JSON

Contracts are read from the release they are based on, `base`, and from the addresses that
differ from it, `custom`.
-/

set_option autoImplicit false

namespace SafeOps

/-- Reads the addresses that differ. -/
def Overrides.ofJson? (j : Json) : Option Overrides := do
  return {
    entryPoint := ← Json.field? j "entry_point" Json.toAddress
    module := ← Json.field? j "safe_4337_module" Json.toAddress
    moduleSetup := ← Json.field? j "safe_module_setup" Json.toAddress
    proxyFactory := ← Json.field? j "proxy_factory" Json.toAddress
    singleton := ← Json.field? j "safe_singleton" Json.toAddress
    multiSend := ← Json.field? j "multi_send" Json.toAddress
    multiSendCallOnly := ← Json.field? j "multi_send_call_only" Json.toAddress
    sharedSigner := ← Json.field? j "webauthn_shared_signer" Json.toAddress }

namespace Contracts

/-- The generation that a release of the module was made for. -/
def generationOf (base : String) : Option EntryPoint :=
  if base = "0.3.0" then some .v07 else if base = "0.2.0" then some .v06 else none

/-- Reads contracts. -/
def ofJson? (j : Json) : Option Contracts := do
  let generation ← generationOf (← Json.fieldD j "base" Json.toText "0.3.0")
  let custom ← Json.fieldD j "custom" Overrides.ofJson? {}
  return (canonical generation).override custom

/-- Writes contracts. -/
def toJson (c : Contracts) : Json :=
  .obj [
    ("entry_point", Json.ofAddress c.entryPoint),
    ("safe_4337_module", Json.ofAddress c.module),
    ("safe_module_setup", Json.ofAddress c.moduleSetup),
    ("proxy_factory", Json.ofAddress c.proxyFactory),
    ("safe_singleton", Json.ofAddress c.singleton),
    ("safe_l2_singleton", Json.ofAddress c.singletonL2),
    ("multi_send", Json.ofAddress c.multiSend),
    ("multi_send_call_only", Json.ofAddress c.multiSendCallOnly),
    ("webauthn_shared_signer", Json.ofAddress c.sharedSigner)]

end Contracts

end SafeOps
