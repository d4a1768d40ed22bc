import SafeOps.UserOperation

/-!
# `SafeOps.UserOperation.Codec`: operations as JSON

The members of an operation tell its generation: one with `initCode` and
`paymasterAndData` and everything else the first generation needs is of the first, and
any other is read as one of the second. Fields that may be missing are left out when they
are.
-/

set_option autoImplicit false

namespace SafeOps.UserOperation

/-- The keys of the first generation, in the order of their declaration. -/
def keysV06 : List String :=
  ["sender", "nonce", "initCode", "callData", "callGasLimit", "verificationGasLimit",
   "preVerificationGas", "maxFeePerGas", "maxPriorityFeePerGas", "paymasterAndData",
   "signature"]

/-- The keys of the second generation, in the order of their declaration. -/
def keysV07 : List String :=
  ["sender", "nonce", "factory", "factoryData", "callData", "callGasLimit",
   "verificationGasLimit", "preVerificationGas", "maxFeePerGas", "maxPriorityFeePerGas",
   "paymaster", "paymasterVerificationGasLimit", "paymasterPostOpGasLimit", "paymasterData",
   "signature"]

/-- Reads the fields that both generations have. -/
def readWith (members : List (String × Json)) (shape : Shape) : Option UserOperation := do
  let quantity (key : String) := Json.required members key (Json.toQuantity 256)
  return {
    sender := ← Json.required members "sender" Json.toAddress
    nonce := ← quantity "nonce"
    callData := ← Json.required members "callData" Json.toBytes
    gas := {
      call := ← quantity "callGasLimit"
      verification := ← quantity "verificationGasLimit"
      preVerification := ← quantity "preVerificationGas"
      maxFee := ← quantity "maxFeePerGas"
      maxPriorityFee := ← quantity "maxPriorityFeePerGas" }
    shape
    signature := ← Json.required members "signature" Json.toBytes }

/-- Reads an operation of the first generation. -/
def ofJsonV06? (j : Json) : Option UserOperation := do
  let members ← Json.toRecord keysV06 j
  let initCode ← Json.required members "initCode" Json.toBytes
  let packed ← Json.required members "paymasterAndData" Json.toBytes
  readWith members (.v06 initCode packed)

/-- Reads an operation of the second generation. -/
def ofJsonV07? (j : Json) : Option UserOperation := do
  let members ← Json.toRecord keysV07 j
  let factory ← Json.optional members "factory" Json.toAddress
  let factoryData ← Json.optional members "factoryData" Json.toBytes
  let paymaster : Paymaster := {
    address := ← Json.optional members "paymaster" Json.toAddress
    verificationGas :=
      ← Json.optional members "paymasterVerificationGasLimit" (Json.toQuantity 256)
    postOpGas := ← Json.optional members "paymasterPostOpGasLimit" (Json.toQuantity 256)
    data := ← Json.optional members "paymasterData" Json.toBytes }
  readWith members (.v07 factory factoryData paymaster)

/-- Reads an operation of either generation. -/
def ofJson? (j : Json) : Option UserOperation :=
  match ofJsonV06? j with
  | some op => some op
  | none => ofJsonV07? j

/-- The members for what deploys the sender. -/
def deploymentMembers : Shape → List (String × Json)
  | .v06 initCode _ => [("initCode", Json.ofBytes initCode)]
  | .v07 factory data _ =>
    Json.memberIfSome "factory" Json.ofAddress factory
      ++ Json.memberIfSome "factoryData" Json.ofBytes data

/-- The members for who pays. -/
def paymasterMembers : Shape → List (String × Json)
  | .v06 _ packed => [("paymasterAndData", Json.ofBytes packed)]
  | .v07 _ _ paymaster =>
    Json.memberIfSome "paymaster" Json.ofAddress paymaster.address
      ++ Json.memberIfSome "paymasterVerificationGasLimit" Json.ofQuantity
        paymaster.verificationGas
      ++ Json.memberIfSome "paymasterPostOpGasLimit" Json.ofQuantity paymaster.postOpGas
      ++ Json.memberIfSome "paymasterData" Json.ofBytes paymaster.data

/-- Writes an operation. -/
def toJson (op : UserOperation) : Json :=
  .obj <|
    [("sender", Json.ofAddress op.sender), ("nonce", Json.ofQuantity op.nonce)]
    ++ deploymentMembers op.shape
    ++ [("callData", Json.ofBytes op.callData),
        ("callGasLimit", Json.ofQuantity op.gas.call),
        ("verificationGasLimit", Json.ofQuantity op.gas.verification),
        ("preVerificationGas", Json.ofQuantity op.gas.preVerification),
        ("maxFeePerGas", Json.ofQuantity op.gas.maxFee),
        ("maxPriorityFeePerGas", Json.ofQuantity op.gas.maxPriorityFee)]
    ++ paymasterMembers op.shape
    ++ [("signature", Json.ofBytes op.signature)]

end SafeOps.UserOperation
