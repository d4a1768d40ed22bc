import SafeOps.Call
import SafeOps.Json.Field

/-!
# `SafeOps.Call.Codec`: calls as JSON

A call is an object with the keys `to`, `value`, `data` and `operation`. Only `to` has to
be there: a call sends nothing and runs in the target unless it says otherwise.
-/

set_option autoImplicit false

namespace SafeOps.Call

/-- Reads a call. -/
def ofJson? (j : Json) : Option Call := do
  let byte ← Json.fieldD j "operation" Json.toByte 0
  return {
    target := ← Json.field j "to" Json.toAddress
    value := ← Json.fieldD j "value" (Json.toQuantity 256) 0
    data := ← Json.bytesField j "data"
    mode := ← (CallMode.ofByte byte).toOption }

/-- Writes a call. -/
def toJson (c : Call) : Json :=
  .obj [
    ("to", Json.ofAddress c.target),
    ("value", Json.ofQuantity c.value),
    ("data", Json.ofBytes c.data),
    ("operation", .int c.mode.toByte.toNat)]

/-- Writes calls. -/
def listToJson (calls : List Call) : Json :=
  .arr (calls.map toJson)

end SafeOps.Call
