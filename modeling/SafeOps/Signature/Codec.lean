import SafeOps.Json.Field
import SafeOps.Signature
import SafeOps.SigningContext

/-!
# `SafeOps.Signature.Codec`: signatures and what they are bound to, as JSON

A signature is an object with the keys `signer` and `data`. Its `kind` says what is known
of the signer: `contract` that it is one, `raw` nothing, so that the size of the data
decides, and `literal` what the key `is_contract` says.

Of a signing context the window may be left out, on one side or on both. It is open there,
which is what zero means.
-/

set_option autoImplicit false

namespace SafeOps

namespace OwnerSignature

/-- Reads a signature. -/
def ofJson? (j : Json) : Option OwnerSignature := do
  let signer ← Json.field j "signer" Json.toAddress
  let data ← Json.bytesField j "data"
  match ← Json.fieldD j "kind" Json.toText "raw" with
  | "raw" => return .ofBytes signer data
  | "contract" => return .ofContract signer data
  | "literal" => return ⟨signer, data, ← Json.fieldD j "is_contract" Json.toFlag false⟩
  | _ => none

/-- Writes a signature. -/
def toJson (s : OwnerSignature) : Json :=
  .obj [
    ("signer", Json.ofAddress s.signer),
    ("data", Json.ofBytes s.data),
    ("is_contract", .bool s.isContract)]

end OwnerSignature

namespace SigningContext

/-- Reads a context. -/
def ofJson? (j : Json) : Option SigningContext := do
  return {
    chainId := ← Json.field j "chain_id" (Json.toQuantity 64)
    module := ← Json.field j "module_address" Json.toAddress
    entryPoint := ← Json.field j "entry_point" Json.toAddress
    validAfter := ← Json.fieldD j "valid_after" (Json.toQuantity 64) 0
    validUntil := ← Json.fieldD j "valid_until" (Json.toQuantity 64) 0 }

/-- Writes a context. -/
def toJson (c : SigningContext) : Json :=
  .obj [
    ("chain_id", Json.ofDecimal c.chainId),
    ("module_address", Json.ofAddress c.module),
    ("entry_point", Json.ofAddress c.entryPoint),
    ("valid_after", Json.ofDecimal c.validAfter),
    ("valid_until", Json.ofDecimal c.validUntil)]

end SigningContext

end SafeOps
