import SafeOps.UserOperation

/-!
# `SafeOps.UserOperation.Text`: operations as a caller types them

Every field is a text. The fields of both generations are there, and those of the other
generation do not matter when an operation is read. `parse` reads the common fields
first and reports the first field that is wrong.
-/

set_option autoImplicit false

namespace SafeOps

/-- A user operation as a caller types it. -/
structure UserOperationText where
  sender : String
  nonce : String
  callData : String
  callGas : String
  verificationGas : String
  preVerificationGas : String
  maxFee : String
  maxPriorityFee : String
  signature : String
  initCode : Option String := none
  paymasterAndData : Option String := none
  factory : Option String := none
  factoryData : Option String := none
  paymaster : Option String := none
  paymasterVerificationGas : Option String := none
  paymasterPostOpGas : Option String := none
  paymasterData : Option String := none

namespace UserOperationText

/-- Reads a field that may be missing. -/
def optional {α : Type} (read : String → String → Except InputError α) (field : String) :
    Option String → Except InputError (Option α)
  | some text => (read field text).map some
  | none => .ok none

/-- Reads what deploys the sender and who pays. -/
def parseShape (t : UserOperationText) : EntryPoint → Except InputError Shape
  | .v06 => do
    let initCode ← optional Input.bytes "init_code" t.initCode
    let packed ← optional Input.bytes "paymaster_and_data" t.paymasterAndData
    return .v06 (initCode.getD []) (packed.getD [])
  | .v07 => do
    let factory ← optional Input.address "factory" t.factory
    let factoryData ← optional Input.bytes "factory_data" t.factoryData
    let address ← optional Input.address "paymaster" t.paymaster
    let verificationGas ← optional (Input.quantity 256) "paymaster_verification_gas_limit"
      t.paymasterVerificationGas
    let postOpGas ← optional (Input.quantity 256) "paymaster_post_op_gas_limit"
      t.paymasterPostOpGas
    let data ← optional Input.bytes "paymaster_data" t.paymasterData
    return .v07 factory factoryData { address, verificationGas, postOpGas, data }

/-- Reads an operation of a generation. -/
def parse (t : UserOperationText) (generation : EntryPoint) : Except InputError UserOperation := do
  let sender ← Input.address "sender" t.sender
  let nonce ← Input.quantity 256 "nonce" t.nonce
  let callData ← Input.bytes "call_data" t.callData
  let call ← Input.quantity 256 "call_gas_limit" t.callGas
  let verification ← Input.quantity 256 "verification_gas_limit" t.verificationGas
  let preVerification ← Input.quantity 256 "pre_verification_gas" t.preVerificationGas
  let maxFee ← Input.quantity 256 "max_fee_per_gas" t.maxFee
  let maxPriorityFee ← Input.quantity 256 "max_priority_fee_per_gas" t.maxPriorityFee
  let signature ← Input.bytes "signature" t.signature
  let shape ← t.parseShape generation
  return {
    sender, nonce, callData, shape, signature
    gas := { call, verification, preVerification, maxFee, maxPriorityFee } }

end UserOperationText

end SafeOps
