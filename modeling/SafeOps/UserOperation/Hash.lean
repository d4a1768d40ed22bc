import SafeOps.SigningContext
import SafeOps.TypedData.Codec
import SafeOps.UserOperation

/-!
# `SafeOps.UserOperation.Hash`: the hashes of an operation

The entry point knows an operation by `entryPointHash`: a hash over all its fields but
the signature, then over that hash, the entry point and the chain.

Owners sign another record, the module's `SafeOp`. Its type (`recordType`), the words its
hash is made from (`recordWords`) and its members as JSON (`recordMessage`) follow the
generation. `ownerHash` is what an owner signs, computed from the words. A wallet is given
the `payload` in its place, from which it works out the hash by itself.
-/

set_option autoImplicit false

namespace SafeOps.UserOperation

/-- Two quantities of 128 bits in one word. -/
def pairWord (high low : Word) : Word :=
  clamp 128 high ++ clamp 128 low

/-! ## The entry point's hash -/

/-- The words the entry point hashes: every field but the signature. -/
def entryPointWords (op : UserOperation) : List Word :=
  let gas :=
    match op.generation with
    | .v06 =>
      [op.gas.call, op.gas.verification, op.gas.preVerification, op.gas.maxFee,
       op.gas.maxPriorityFee]
    | .v07 =>
      [pairWord op.gas.verification op.gas.call, op.gas.preVerification,
       pairWord op.gas.maxPriorityFee op.gas.maxFee]
  [op.sender.toWord, op.nonce, (keccak256 op.initCode).bits, (keccak256 op.callData).bits]
    ++ gas ++ [(keccak256 op.paymasterAndData).bits]

/-- The hash the entry point and bundlers know an operation by. -/
def entryPointHash (op : UserOperation) (entryPoint : Address) (chainId : BitVec 64) : Hash :=
  let inner := keccak256 (wordsBytes op.entryPointWords)
  keccak256 (wordsBytes [inner.bits, entryPoint.toWord, chainId.setWidth 256])

/-! ## The owners' hash -/

/-- The written type of the record owners sign. -/
def recordType : EntryPoint → String
  | .v06 =>
    "SafeOp(address safe,uint256 nonce,bytes initCode,bytes callData,uint256 callGasLimit,"
    ++ "uint256 verificationGasLimit,uint256 preVerificationGas,uint256 maxFeePerGas,"
    ++ "uint256 maxPriorityFeePerGas,bytes paymasterAndData,uint48 validAfter,"
    ++ "uint48 validUntil,address entryPoint)"
  | .v07 =>
    "SafeOp(address safe,uint256 nonce,bytes initCode,bytes callData,"
    ++ "uint128 verificationGasLimit,uint128 callGasLimit,uint256 preVerificationGas,"
    ++ "uint128 maxPriorityFeePerGas,uint128 maxFeePerGas,bytes paymasterAndData,"
    ++ "uint48 validAfter,uint48 validUntil,address entryPoint)"

/-- The word of a quantity of at most so many bits. -/
def narrowWord {width : Nat} (bits : Nat) (x : BitVec width) : Word :=
  (clamp bits x).setWidth 256

/-- The words of the record's gas fields. -/
def recordGasWords (op : UserOperation) : List Word :=
  match op.generation with
  | .v06 =>
    [op.gas.call, op.gas.verification, op.gas.preVerification, op.gas.maxFee,
     op.gas.maxPriorityFee]
  | .v07 =>
    [narrowWord 128 op.gas.verification, narrowWord 128 op.gas.call, op.gas.preVerification,
     narrowWord 128 op.gas.maxPriorityFee, narrowWord 128 op.gas.maxFee]

/-- The words of the record's members. -/
def recordWords (op : UserOperation) (c : SigningContext) : List Word :=
  [op.sender.toWord, op.nonce, (keccak256 op.initCode).bits, (keccak256 op.callData).bits]
    ++ op.recordGasWords
    ++ [(keccak256 op.paymasterAndData).bits, narrowWord 48 c.validAfter,
        narrowWord 48 c.validUntil, c.entryPoint.toWord]

/-- The hash of the record. -/
def recordHash (op : UserOperation) (c : SigningContext) : Hash :=
  hashRecord (recordType op.generation) (op.recordWords c)

/-- The hash of the type of the module's domain, which has a chain and a contract. -/
def domainTypeHash : Hash :=
  ⟨0x47e79534a245952e8b16893a336b85a3d9ea9fa8c573f3d803afb92a79469218⟩

/-- The hash of the module's domain. -/
def domainHash (c : SigningContext) : Hash :=
  keccak256 (domainTypeHash.toBytes ++ wordsBytes [c.chainId.setWidth 256, c.module.toWord])

/-- What owners sign. -/
def ownerHash (op : UserOperation) (c : SigningContext) : Hash :=
  signingHash (domainHash c) (op.recordHash c)

/-! ## The message for wallets -/

/-- The gas fields of the record as JSON. -/
def recordGasMessage (op : UserOperation) : List (String × Json) :=
  match op.generation with
  | .v06 =>
    [("callGasLimit", Json.ofQuantity op.gas.call),
     ("verificationGasLimit", Json.ofQuantity op.gas.verification),
     ("preVerificationGas", Json.ofQuantity op.gas.preVerification),
     ("maxFeePerGas", Json.ofQuantity op.gas.maxFee),
     ("maxPriorityFeePerGas", Json.ofQuantity op.gas.maxPriorityFee)]
  | .v07 =>
    [("verificationGasLimit", Json.ofQuantity op.gas.verification),
     ("callGasLimit", Json.ofQuantity op.gas.call),
     ("preVerificationGas", Json.ofQuantity op.gas.preVerification),
     ("maxPriorityFeePerGas", Json.ofQuantity op.gas.maxPriorityFee),
     ("maxFeePerGas", Json.ofQuantity op.gas.maxFee)]

/-- The record's members as JSON. -/
def recordMessage (op : UserOperation) (c : SigningContext) : Json :=
  .obj <|
    [("safe", Json.ofAddress op.sender), ("nonce", Json.ofQuantity op.nonce),
     ("initCode", Json.ofBytes op.initCode), ("callData", Json.ofBytes op.callData)]
    ++ op.recordGasMessage
    ++ [("paymasterAndData", Json.ofBytes op.paymasterAndData),
        ("validAfter", Json.ofQuantity c.validAfter),
        ("validUntil", Json.ofQuantity c.validUntil),
        ("entryPoint", Json.ofAddress c.entryPoint)]

/-- The members of the module's domain. -/
def domainMembers : List TypedData.Member :=
  [⟨"uint256", "chainId"⟩, ⟨"address", "verifyingContract"⟩]

/-- What owners sign, as the JSON that wallets show and hash. -/
def payload (op : UserOperation) (c : SigningContext) : Json :=
  .obj [
    ("types", .obj [
      (TypedData.domainTypeName, .arr (domainMembers.map TypedData.Member.toJson)),
      ("SafeOp",
        .arr ((TypedData.membersOf (recordType op.generation)).map TypedData.Member.toJson))]),
    ("primaryType", .str "SafeOp"),
    ("domain", .obj [
      ("chainId", Json.ofQuantity c.chainId),
      ("verifyingContract", Json.ofAddress c.module)]),
    ("message", op.recordMessage c)]

end SafeOps.UserOperation
