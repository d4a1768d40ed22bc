import SafeOps.UserOperation.Codec

/-!
# `SafeOps.Receipt`: what became of an operation

A bundler puts operations into transactions of its own. A `Receipt` tells that this has
happened, what it cost and whether the account's call succeeded. A `Lookup` is an operation
that a bundler knows, together with the transaction once there is one.
-/

set_option autoImplicit false

namespace SafeOps

/-- The transaction an operation was part of. -/
structure BundleReceipt where
  transactionHash : Hash
  blockNumber : Option Word
  blockHash : Option Hash
  deriving DecidableEq, Repr

namespace BundleReceipt

/-- Reads a transaction. -/
def ofJson? (j : Json) : Option BundleReceipt := do
  let members ← Json.toRecord ["transactionHash", "blockNumber", "blockHash"] j
  return {
    transactionHash := ← Json.required members "transactionHash" Json.toHash
    blockNumber := ← Json.optional members "blockNumber" (Json.toQuantity 256)
    blockHash := ← Json.optional members "blockHash" Json.toHash }

/-- Writes a transaction. -/
def toJson (r : BundleReceipt) : Json :=
  .obj [
    ("transactionHash", Json.ofHash r.transactionHash),
    ("blockNumber", Json.orNull Json.ofQuantity r.blockNumber),
    ("blockHash", Json.orNull Json.ofHash r.blockHash)]

end BundleReceipt

/-- What became of an operation. -/
structure Receipt where
  hash : Hash
  entryPoint : Option Address
  sender : Address
  nonce : Word
  paymaster : Option Address
  /-- What was paid. -/
  gasCost : Word
  gasUsed : Word
  /-- Whether the account's call succeeded. -/
  success : Bool
  /-- Why it did not. -/
  reason : Option String
  bundle : BundleReceipt
  deriving DecidableEq, Repr

namespace Receipt

/-- The keys, in the order of their declaration. -/
def keys : List String :=
  ["userOpHash", "entryPoint", "sender", "nonce", "paymaster", "actualGasCost",
   "actualGasUsed", "success", "reason", "receipt"]

/-- Reads a receipt. -/
def ofJson? (j : Json) : Option Receipt := do
  let members ← Json.toRecord keys j
  let quantity (key : String) := Json.required members key (Json.toQuantity 256)
  return {
    hash := ← Json.required members "userOpHash" Json.toHash
    entryPoint := ← Json.optional members "entryPoint" Json.toAddress
    sender := ← Json.required members "sender" Json.toAddress
    nonce := ← quantity "nonce"
    paymaster := ← Json.optional members "paymaster" Json.toAddress
    gasCost := ← quantity "actualGasCost"
    gasUsed := ← quantity "actualGasUsed"
    success := ← Json.required members "success" Json.toFlag
    reason := ← Json.optional members "reason" Json.toText
    bundle := ← Json.required members "receipt" BundleReceipt.ofJson? }

/-- Writes a receipt. -/
def toJson (r : Receipt) : Json :=
  .obj [
    ("userOpHash", Json.ofHash r.hash),
    ("entryPoint", Json.orNull Json.ofAddress r.entryPoint),
    ("sender", Json.ofAddress r.sender),
    ("nonce", Json.ofQuantity r.nonce),
    ("paymaster", Json.orNull Json.ofAddress r.paymaster),
    ("actualGasCost", Json.ofQuantity r.gasCost),
    ("actualGasUsed", Json.ofQuantity r.gasUsed),
    ("success", .bool r.success),
    ("reason", Json.orNull .str r.reason),
    ("receipt", r.bundle.toJson)]

end Receipt

/-- An operation that a bundler knows. -/
structure Lookup where
  operation : UserOperation
  entryPoint : Address
  transactionHash : Option Hash
  blockHash : Option Hash
  blockNumber : Option Word
  deriving DecidableEq, Repr

namespace Lookup

/-- The keys, in the order of their declaration. -/
def keys : List String :=
  ["userOperation", "entryPoint", "transactionHash", "blockHash", "blockNumber"]

/-- Reads an operation that a bundler knows. -/
def ofJson? (j : Json) : Option Lookup := do
  let members ← Json.toRecord keys j
  return {
    operation := ← Json.required members "userOperation" UserOperation.ofJson?
    entryPoint := ← Json.required members "entryPoint" Json.toAddress
    transactionHash := ← Json.optional members "transactionHash" Json.toHash
    blockHash := ← Json.optional members "blockHash" Json.toHash
    blockNumber := ← Json.optional members "blockNumber" (Json.toQuantity 256) }

/-- Writes an operation that a bundler knows. -/
def toJson (l : Lookup) : Json :=
  .obj [
    ("userOperation", l.operation.toJson),
    ("entryPoint", Json.ofAddress l.entryPoint),
    ("transactionHash", Json.orNull Json.ofHash l.transactionHash),
    ("blockHash", Json.orNull Json.ofHash l.blockHash),
    ("blockNumber", Json.orNull Json.ofQuantity l.blockNumber)]

end Lookup

end SafeOps
