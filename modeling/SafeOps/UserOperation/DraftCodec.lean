import SafeOps.Json.Field
import SafeOps.UserOperation.Text

/-!
# `SafeOps.UserOperation.DraftCodec`: drafts and typed operations as JSON

A draft without gas has the placeholders. In an operation that was typed, every field is
text, and a field of the other generation is left out.
-/

set_option autoImplicit false

namespace SafeOps

/-- Reads the name of a generation. -/
def EntryPoint.ofName? (name : String) : Option EntryPoint :=
  [EntryPoint.v06, .v07].find? fun e => e.name = name

/-- Reads a draft. -/
def Draft.ofJson? (j : Json) : Option Draft := do
  let gas (key : String) : Option Word := Json.fieldD j key (Json.toQuantity 256) 1
  let factory ← Json.field? j "factory" Json.toAddress
  let factoryData ← Json.bytesField j "factory_data"
  return {
    sender := ← Json.field j "sender" Json.toAddress
    nonce := ← Json.fieldD j "nonce" (Json.toQuantity 256) 0
    callData := ← Json.bytesField j "call_data"
    deployment := factory.map fun f => (f, factoryData)
    gas := {
      call := ← gas "call_gas_limit"
      verification := ← gas "verification_gas_limit"
      preVerification := ← gas "pre_verification_gas"
      maxFee := ← gas "max_fee_per_gas"
      maxPriorityFee := ← gas "max_priority_fee_per_gas" } }

/-- Reads an operation that was typed. A field that has to be there is empty if it is
missing. -/
def UserOperationText.ofJson? (j : Json) : Option UserOperationText := do
  let required (key : String) : Option String := Json.fieldD j key Json.toText ""
  let optional (key : String) : Option (Option String) := Json.field? j key Json.toText
  return {
    sender := ← required "sender"
    nonce := ← required "nonce"
    callData := ← required "call_data"
    callGas := ← required "call_gas_limit"
    verificationGas := ← required "verification_gas_limit"
    preVerificationGas := ← required "pre_verification_gas"
    maxFee := ← required "max_fee_per_gas"
    maxPriorityFee := ← required "max_priority_fee_per_gas"
    signature := ← required "signature"
    initCode := ← optional "init_code"
    paymasterAndData := ← optional "paymaster_and_data"
    factory := ← optional "factory"
    factoryData := ← optional "factory_data"
    paymaster := ← optional "paymaster"
    paymasterVerificationGas := ← optional "paymaster_verification_gas_limit"
    paymasterPostOpGas := ← optional "paymaster_post_op_gas_limit"
    paymasterData := ← optional "paymaster_data" }

end SafeOps
