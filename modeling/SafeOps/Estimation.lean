import SafeOps.Json.Codec

/-!
# `SafeOps.Estimation`: what one stage of pricing found out

Pricing an operation goes through stages, each of which may know some of the gas fields
and of the fields of a paymaster. An `Estimation` holds the fields a stage knows. It is
read from the answers of bundlers and paymasters as it is.

`overlay` lays one stage over another: a field both know is taken from the upper one.

* `overlay_assoc`, `empty_overlay` and `overlay_empty`: stages can be grouped freely, and
  a stage that knows nothing changes nothing.
-/

set_option autoImplicit false

namespace SafeOps

/-- The fields a stage of pricing knows. -/
structure Estimation where
  /-- Gas for the execution. -/
  callGas : Option Word := none
  /-- Gas for the validation. -/
  verificationGas : Option Word := none
  /-- Gas for what the bundler does around the operation. -/
  preVerificationGas : Option Word := none
  /-- The most to pay per gas. -/
  maxFee : Option Word := none
  /-- The tip per gas. -/
  maxPriorityFee : Option Word := none
  /-- The paymaster and its data in one. -/
  paymasterAndData : Option Bytes := none
  paymaster : Option Address := none
  paymasterData : Option Bytes := none
  /-- Gas for the paymaster's validation. -/
  paymasterVerificationGas : Option Word := none
  /-- Gas for the paymaster after the execution. -/
  paymasterPostOpGas : Option Word := none
  deriving DecidableEq, Repr

namespace Estimation

/-- The stage that knows nothing. -/
def empty : Estimation := {}

/-- Whether a stage knows nothing. -/
def isEmpty (e : Estimation) : Bool :=
  e = empty

/-- Lays `upper` over `lower`. -/
def overlay (lower upper : Estimation) : Estimation where
  callGas := upper.callGas.or lower.callGas
  verificationGas := upper.verificationGas.or lower.verificationGas
  preVerificationGas := upper.preVerificationGas.or lower.preVerificationGas
  maxFee := upper.maxFee.or lower.maxFee
  maxPriorityFee := upper.maxPriorityFee.or lower.maxPriorityFee
  paymasterAndData := upper.paymasterAndData.or lower.paymasterAndData
  paymaster := upper.paymaster.or lower.paymaster
  paymasterData := upper.paymasterData.or lower.paymasterData
  paymasterVerificationGas := upper.paymasterVerificationGas.or lower.paymasterVerificationGas
  paymasterPostOpGas := upper.paymasterPostOpGas.or lower.paymasterPostOpGas

theorem overlay_assoc (a b c : Estimation) :
    (a.overlay b).overlay c = a.overlay (b.overlay c) := by
  simp [overlay, Option.or_assoc]

theorem empty_overlay (e : Estimation) : empty.overlay e = e := by
  simp [overlay, empty]

theorem overlay_empty (e : Estimation) : e.overlay empty = e := by
  simp [overlay, empty]

/-! ## JSON -/

/-- The keys of the fields, in the order of their declaration. -/
def keys : List String :=
  ["callGasLimit", "verificationGasLimit", "preVerificationGas", "maxFeePerGas",
   "maxPriorityFeePerGas", "paymasterAndData", "paymaster", "paymasterData",
   "paymasterVerificationGasLimit", "paymasterPostOpGasLimit"]

/-- Reads a stage. Unknown fields may be absent or `null`. -/
def ofJson? (j : Json) : Option Estimation := do
  let members ← Json.toRecord keys j
  let quantity (key : String) := Json.optional members key (Json.toQuantity 256)
  let bytes (key : String) := Json.optional members key Json.toBytes
  return {
    callGas := ← quantity "callGasLimit"
    verificationGas := ← quantity "verificationGasLimit"
    preVerificationGas := ← quantity "preVerificationGas"
    maxFee := ← quantity "maxFeePerGas"
    maxPriorityFee := ← quantity "maxPriorityFeePerGas"
    paymasterAndData := ← bytes "paymasterAndData"
    paymaster := ← Json.optional members "paymaster" Json.toAddress
    paymasterData := ← bytes "paymasterData"
    paymasterVerificationGas := ← quantity "paymasterVerificationGasLimit"
    paymasterPostOpGas := ← quantity "paymasterPostOpGasLimit" }

/-- Writes a stage, without the fields it does not know. -/
def toJson (e : Estimation) : Json :=
  .obj <|
    Json.memberIfSome "callGasLimit" Json.ofQuantity e.callGas
    ++ Json.memberIfSome "verificationGasLimit" Json.ofQuantity e.verificationGas
    ++ Json.memberIfSome "preVerificationGas" Json.ofQuantity e.preVerificationGas
    ++ Json.memberIfSome "maxFeePerGas" Json.ofQuantity e.maxFee
    ++ Json.memberIfSome "maxPriorityFeePerGas" Json.ofQuantity e.maxPriorityFee
    ++ Json.memberIfSome "paymasterAndData" Json.ofBytes e.paymasterAndData
    ++ Json.memberIfSome "paymaster" Json.ofAddress e.paymaster
    ++ Json.memberIfSome "paymasterData" Json.ofBytes e.paymasterData
    ++ Json.memberIfSome "paymasterVerificationGasLimit" Json.ofQuantity
      e.paymasterVerificationGas
    ++ Json.memberIfSome "paymasterPostOpGasLimit" Json.ofQuantity e.paymasterPostOpGas

end Estimation

end SafeOps
