import SafeOps.SafeOperation.Record

/-!
# `SafeOps.SafeOperation.RecordCodec`: records of an indexing service as JSON

Quantities and points in time stay texts here; they are read when an operation is taken
up again. Fields that may be missing are written as `null`.
-/

set_option autoImplicit false

namespace SafeOps

namespace Confirmation

/-- The keys, in the order of their declaration. -/
def keys : List String := ["created", "modified", "owner", "signature", "signatureType"]

/-- Reads a confirmation. -/
def ofJson? (j : Json) : Option Confirmation := do
  let members ← Json.toRecord keys j
  return {
    created := ← Json.required members "created" Json.toText
    modified := ← Json.optional members "modified" Json.toText
    owner := ← Json.required members "owner" Json.toAddress
    signature := ← Json.required members "signature" Json.toBytes
    signatureType := ← Json.required members "signatureType" Json.toText }

/-- Writes a confirmation. -/
def toJson (c : Confirmation) : Json :=
  .obj [
    ("created", .str c.created),
    ("modified", Json.orNull .str c.modified),
    ("owner", Json.ofAddress c.owner),
    ("signature", Json.ofBytes c.signature),
    ("signatureType", .str c.signatureType)]

end Confirmation

namespace UserOperationRecord

/-- The keys, in the order of their declaration. -/
def keys : List String :=
  ["ethereumTxHash", "sender", "userOperationHash", "nonce", "initCode", "callData",
   "callGasLimit", "verificationGasLimit", "preVerificationGas", "maxFeePerGas",
   "maxPriorityFeePerGas", "paymaster", "paymasterData", "signature", "entryPoint"]

/-- Reads the user operation inside a record. -/
def ofJson? (j : Json) : Option UserOperationRecord := do
  let members ← Json.toRecord keys j
  let text (key : String) := Json.required members key Json.toText
  return {
    transactionHash := ← Json.optional members "ethereumTxHash" Json.toText
    sender := ← Json.required members "sender" Json.toAddress
    hash := ← text "userOperationHash"
    nonce := ← text "nonce"
    initCode := ← Json.optional members "initCode" Json.toBytes
    callData := ← Json.required members "callData" Json.toBytes
    callGas := ← text "callGasLimit"
    verificationGas := ← text "verificationGasLimit"
    preVerificationGas := ← text "preVerificationGas"
    maxFee := ← text "maxFeePerGas"
    maxPriorityFee := ← text "maxPriorityFeePerGas"
    paymaster := ← Json.optional members "paymaster" Json.toAddress
    paymasterData := ← Json.optional members "paymasterData" Json.toBytes
    signature := ← Json.optional members "signature" Json.toBytes
    entryPoint := ← Json.required members "entryPoint" Json.toAddress }

/-- Writes the user operation inside a record. -/
def toJson (r : UserOperationRecord) : Json :=
  .obj [
    ("ethereumTxHash", Json.orNull .str r.transactionHash),
    ("sender", Json.ofAddress r.sender),
    ("userOperationHash", .str r.hash),
    ("nonce", .str r.nonce),
    ("initCode", Json.orNull Json.ofBytes r.initCode),
    ("callData", Json.ofBytes r.callData),
    ("callGasLimit", .str r.callGas),
    ("verificationGasLimit", .str r.verificationGas),
    ("preVerificationGas", .str r.preVerificationGas),
    ("maxFeePerGas", .str r.maxFee),
    ("maxPriorityFeePerGas", .str r.maxPriorityFee),
    ("paymaster", Json.orNull Json.ofAddress r.paymaster),
    ("paymasterData", Json.orNull Json.ofBytes r.paymasterData),
    ("signature", Json.orNull Json.ofBytes r.signature),
    ("entryPoint", Json.ofAddress r.entryPoint)]

end UserOperationRecord

namespace SafeOperationRecord

/-- The keys, in the order of their declaration. -/
def keys : List String :=
  ["created", "modified", "safeOperationHash", "nonce", "initCode", "callData",
   "callGasLimit", "verificationGasLimit", "preVerificationGas", "maxFeePerGas",
   "maxPriorityFeePerGas", "paymaster", "paymasterData", "entryPoint", "validAfter",
   "validUntil", "moduleAddress", "confirmations", "preparedSignature", "userOperation"]

/-- Reads a record. The list of confirmations may be absent, but not `null`. -/
def ofJson? (j : Json) : Option SafeOperationRecord := do
  let members ← Json.toRecord keys j
  let text (key : String) := Json.required members key Json.toText
  return {
    created := ← text "created"
    modified := ← Json.optional members "modified" Json.toText
    hash := ← text "safeOperationHash"
    nonce := ← text "nonce"
    initCode := ← Json.optional members "initCode" Json.toBytes
    callData := ← Json.required members "callData" Json.toBytes
    callGas := ← text "callGasLimit"
    verificationGas := ← text "verificationGasLimit"
    preVerificationGas := ← text "preVerificationGas"
    maxFee := ← text "maxFeePerGas"
    maxPriorityFee := ← text "maxPriorityFeePerGas"
    paymaster := ← Json.optional members "paymaster" Json.toAddress
    paymasterData := ← Json.optional members "paymasterData" Json.toBytes
    entryPoint := ← Json.required members "entryPoint" Json.toAddress
    validAfter := ← Json.optional members "validAfter" Json.toText
    validUntil := ← Json.optional members "validUntil" Json.toText
    module := ← Json.required members "moduleAddress" Json.toAddress
    confirmations :=
      ← Json.withDefault members "confirmations" [] (Json.toListOf Confirmation.ofJson?)
    preparedSignature := ← Json.optional members "preparedSignature" Json.toBytes
    userOperation := ← Json.optional members "userOperation" UserOperationRecord.ofJson? }

/-- Writes a record. -/
def toJson (r : SafeOperationRecord) : Json :=
  .obj [
    ("created", .str r.created),
    ("modified", Json.orNull .str r.modified),
    ("safeOperationHash", .str r.hash),
    ("nonce", .str r.nonce),
    ("initCode", Json.orNull Json.ofBytes r.initCode),
    ("callData", Json.ofBytes r.callData),
    ("callGasLimit", .str r.callGas),
    ("verificationGasLimit", .str r.verificationGas),
    ("preVerificationGas", .str r.preVerificationGas),
    ("maxFeePerGas", .str r.maxFee),
    ("maxPriorityFeePerGas", .str r.maxPriorityFee),
    ("paymaster", Json.orNull Json.ofAddress r.paymaster),
    ("paymasterData", Json.orNull Json.ofBytes r.paymasterData),
    ("entryPoint", Json.ofAddress r.entryPoint),
    ("validAfter", Json.orNull .str r.validAfter),
    ("validUntil", Json.orNull .str r.validUntil),
    ("moduleAddress", Json.ofAddress r.module),
    ("confirmations", .arr (r.confirmations.map Confirmation.toJson)),
    ("preparedSignature", Json.orNull Json.ofBytes r.preparedSignature),
    ("userOperation", Json.orNull UserOperationRecord.toJson r.userOperation)]

end SafeOperationRecord

end SafeOps
