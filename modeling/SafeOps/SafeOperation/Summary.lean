import SafeOps.SafeOperation
import SafeOps.Signature.Codec
import SafeOps.UserOperation.Codec

/-!
# `SafeOps.SafeOperation.Summary`: an operation at a glance

A summary has what owners look at: the operation without signatures, its hashes, the
signatures in the order in which they are encoded, and what they are bound to.
-/

set_option autoImplicit false

namespace SafeOps.SafeOperation

/-- Writes a summary. -/
def summary (s : SafeOperation) : Json :=
  .obj [
    ("version", .str s.operation.generation.name),
    ("sender", Json.ofAddress s.operation.sender),
    ("nonce", Json.ofQuantity s.operation.nonce),
    ("call_data", Json.ofBytes s.operation.callData),
    ("init_code", Json.ofBytes s.operation.initCode),
    ("verification_gas_limit", Json.ofQuantity s.operation.gas.verification),
    ("hash", Json.ofHash s.hash),
    ("user_operation_hash", Json.ofHash s.entryPointHash),
    ("wire", s.operation.toJson),
    ("signatures", .arr (s.signatures.entries.map OwnerSignature.toJson)),
    ("options", s.context.toJson)]

end SafeOps.SafeOperation
