import SafeOps.Json.Codec

/-!
# `SafeOps.Json.Field`: objects that people write

Settings are written by people, who leave out what is not needed or write `null` for it.
A field is read by its key, and other keys do not matter.
-/

set_option autoImplicit false

namespace SafeOps.Json

/-- Reads a field that has to be there. -/
def field {α : Type} (j : Json) (key : String) (value : Json → Option α) : Option α :=
  (j.present? key).bind value

/-- Reads a field that may be missing or null. -/
def field? {α : Type} (j : Json) (key : String) (value : Json → Option α) : Option (Option α) :=
  match j.present? key with
  | none => some none
  | some v => (value v).map some

/-- Reads a field that may be missing or null and then has a default. -/
def fieldD {α : Type} (j : Json) (key : String) (value : Json → Option α) (default : α) :
    Option α := do
  return (← field? j key value).getD default

/-- Reads a list that may be missing and then is empty. -/
def fields {α : Type} (j : Json) (key : String) (item : Json → Option α) : Option (List α) :=
  fieldD j key (toListOf item) []

/-- Reads bytes that may be missing and then are none. -/
def bytesField (j : Json) (key : String) : Option Bytes :=
  fieldD j key toBytes []

/-- Reads an object whose members are all of one kind. -/
def toEntries {α : Type} (value : Json → Option α) : Json → Option (List (String × α))
  | .obj members => members.mapM fun (k, v) => return (k, ← value v)
  | _ => none

/-- Writes a number in decimal, as text. -/
def ofDecimal {width : Nat} (x : BitVec width) : Json :=
  .str (Quantity.decimal x)

end SafeOps.Json
