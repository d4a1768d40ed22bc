import SafeOps.Address
import SafeOps.Json

/-!
# `SafeOps.Json.Codec`: chain values inside JSON

Writers and readers for the scalar values of the chain. A quantity is written as a
hexadecimal string and read from a string or from an integer of at most 64 bits. Byte
strings, addresses and hashes are written as hexadecimal strings and read from such
a string or from an array of their bytes.

A record is an object. An array is taken for one too, its items being the fields in
the order of their declaration. Unknown members do not matter. A `required` field has to
be there and to be readable; an `optional` one may be absent or `null`.
-/

set_option autoImplicit false

namespace SafeOps.Json

/-! ## Writing -/

/-- A quantity as a hexadecimal string. -/
def ofQuantity {width : Nat} (x : BitVec width) : Json :=
  .str (Quantity.hex x)

/-- A byte string as a hexadecimal string. -/
def ofBytes (bs : Bytes) : Json :=
  .str (Hex.render bs)

/-- An address as a hexadecimal string. -/
def ofAddress (a : Address) : Json :=
  .str a.text

/-- A hash as a hexadecimal string. -/
def ofHash (h : Hash) : Json :=
  .str (Hex.render h.toBytes)

/-- A value that may be missing, `null` if it is. -/
def orNull {α : Type} (write : α → Json) : Option α → Json
  | some x => write x
  | none => .null

/-- The member for a value, nothing if the value is missing. -/
def memberIfSome {α : Type} (key : String) (write : α → Json) :
    Option α → List (String × Json)
  | some x => [(key, write x)]
  | none => []

/-! ## Reading scalars -/

/-- Reads a quantity. -/
def toQuantity (width : Nat) : Json → Option (BitVec width)
  | .str s => (Quantity.read width s).toOption
  | .int n => if 0 ≤ n ∧ n < limit width then some (BitVec.ofInt width n) else none
  | _ => none

/-- Reads one byte of an array. -/
def toByte : Json → Option UInt8
  | .int n => if 0 ≤ n ∧ n < 256 then some (UInt8.ofNat n.toNat) else none
  | _ => none

/-- Reads a byte string, of the given length if there is one. -/
def toBytesOf (length? : Option Nat) : Json → Option Bytes
  | .str s => (Hex.read length? s).toOption
  | .arr items => do
    let bs ← items.mapM toByte
    match length? with
    | some n => if bs.length = n then some bs else none
    | none => some bs
  | _ => none

/-- Reads a byte string. -/
def toBytes : Json → Option Bytes :=
  toBytesOf none

/-- Reads an address. -/
def toAddress (j : Json) : Option Address :=
  (toBytesOf (some 20) j).map Address.ofBytes

/-- Reads a hash. -/
def toHash (j : Json) : Option Hash :=
  (toBytesOf (some 32) j).map Hash.ofBytes

/-- Reads a string. -/
def toText : Json → Option String
  | .str s => some s
  | _ => none

/-- Reads a truth value. -/
def toFlag : Json → Option Bool
  | .bool b => some b
  | _ => none

/-- Reads an array. -/
def toListOf {α : Type} (item : Json → Option α) : Json → Option (List α)
  | .arr items => items.mapM item
  | _ => none

/-- Reads a value that may be `null`. -/
def toOptionOf {α : Type} (value : Json → Option α) : Json → Option (Option α)
  | .null => some none
  | j => (value j).map some

/-! ## Reading records -/

/-- The members of a record whose fields have the given keys. -/
def toRecord (keys : List String) : Json → Option (List (String × Json))
  | .obj members => some members
  | .arr items => if items.length ≤ keys.length then some (keys.zip items) else none
  | _ => none

/-- A field that has to be there. -/
def required {α : Type} (members : List (String × Json)) (key : String)
    (value : Json → Option α) : Option α := do
  value (← lookup key members)

/-- A field that may be absent or `null`. -/
def optional {α : Type} (members : List (String × Json)) (key : String)
    (value : Json → Option α) : Option (Option α) :=
  match lookup key members with
  | none => some none
  | some j => toOptionOf value j

/-- A field that may be absent, and is `default` then. -/
def withDefault {α : Type} (members : List (String × Json)) (key : String) (default : α)
    (value : Json → Option α) : Option α :=
  match lookup key members with
  | none => some default
  | some j => value j

end SafeOps.Json
