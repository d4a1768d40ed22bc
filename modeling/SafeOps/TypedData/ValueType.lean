import SafeOps.Text.Digits

/-!
# `SafeOps.TypedData.ValueType`: what the values of a message can be

The type of a value is a scalar, an array of values of one type, or a record. A record keeps its
written type, since that is hashed along with its values. Its members are named in it, but
its own name is not a part of the type's name: there a record looks like a tuple.
-/

set_option autoImplicit false

namespace SafeOps.TypedData

/-- The type of a value. -/
inductive ValueType where
  | bool
  | address
  /-- An address and the four bytes that choose one of its functions. -/
  | function
  | string
  | bytes
  /-- A number without a sign. -/
  | uint (bits : Nat)
  /-- A number with a sign. -/
  | int (bits : Nat)
  /-- So many bytes. -/
  | fixedBytes (size : Nat)
  /-- Any number of values. -/
  | array (item : ValueType)
  /-- So many values. -/
  | fixedArray (item : ValueType) (length : Nat)
  /-- A value for each member; `written` is the written type. -/
  | record (written : String) (members : List (String × ValueType))
  deriving Repr

namespace ValueType

/-! ## Names -/

mutual

/-- The name of a type. -/
def name : ValueType → String
  | bool => "bool"
  | address => "address"
  | function => "function"
  | string => "string"
  | bytes => "bytes"
  | uint bits => "uint" ++ toString bits
  | int bits => "int" ++ toString bits
  | fixedBytes size => "bytes" ++ toString size
  | array item => item.name ++ "[]"
  | fixedArray item length => item.name ++ "[" ++ toString length ++ "]"
  -- A comma tells a record of one member from a type in parentheses.
  | record _ [(_, type)] => "(" ++ type.name ++ ",)"
  | record _ members => "(" ++ String.intercalate "," (memberNames members) ++ ")"

/-- The names of the types of members. -/
def memberNames : List (String × ValueType) → List String
  | [] => []
  | (_, type) :: rest => type.name :: memberNames rest

end

/-! ## Scalars -/

/-- The number behind the name of a family of types. -/
def sizeAfter? (family : String) (name : String) : Option Nat :=
  let digits := name.toList.drop family.length
  if family.toList.isPrefixOf name.toList ∧ digits ≠ [] then Text.digits? 10 digits else none

/-- The bits of a number whose type has the name of a family and a size. -/
def bitsAfter? (family : String) (name : String) : Option Nat :=
  (sizeAfter? family name).filter fun bits => 0 < bits && bits ≤ 256 && bits % 8 = 0

/-- The type that is neither an array nor a record and has the given name. -/
def scalar? (name : String) : Option ValueType :=
  if name = "bool" then some .bool
  else if name = "address" then some .address
  else if name = "function" then some .function
  else if name = "string" then some .string
  else if name = "bytes" then some .bytes
  else if name = "uint" then some (.uint 256)
  else if name = "int" then some (.int 256)
  else
    match bitsAfter? "uint" name, bitsAfter? "int" name with
    | some bits, _ => some (.uint bits)
    | none, some bits => some (.int bits)
    | none, none =>
      ((sizeAfter? "bytes" name).filter fun size => 0 < size && size ≤ 32).map .fixedBytes

/-- An array around a type, of the given length if there is one. -/
def around (item : ValueType) : Option Nat → ValueType
  | none => .array item
  | some length => .fixedArray item length

end ValueType

end SafeOps.TypedData
