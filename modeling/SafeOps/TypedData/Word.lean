import SafeOps.Json.Codec
import SafeOps.TypedData.Fault
import SafeOps.TypedData.ValueType

/-!
# `SafeOps.TypedData.Word`: values as words

Every value of a message becomes one word. A number, an address and so many bytes fit a word
as they are; a text, bytes of any number, an array and a record are hashed. The words of an
array's items are hashed one after another, and those of a record behind the hash of its
written type.

Values are JSON. A number or a truth value may be a text, and bytes may be an array.

* `word_record`: the word of a record is the hash of its words.
-/

set_option autoImplicit false

namespace SafeOps

/-- The bytes of words, one after another. -/
def wordsBytes (words : List Word) : Bytes :=
  words.flatMap (Bytes.ofBits 32)

/-- The hash of a record: the words of its members behind the hash of its type. -/
def hashRecord (type : String) (words : List Word) : Hash :=
  keccak256 ((keccak256 (Bytes.ofText type)).toBytes ++ wordsBytes words)

namespace TypedData

/-! ## Scalars -/

/-- The bytes followed by zeros up to a word. -/
def leftAligned (bs : Bytes) : Word :=
  Bytes.toBits 256 (Bytes.pad32 bs)

/-- Exactly so many bytes, written in hexadecimal digits. -/
def hexOf? (size : Nat) : Json → Option Bytes
  | .str s => (Hex.read (some size) s).toOption
  | _ => none

/-- The word of a truth value. -/
def boolWord? : Json → Option Word
  | .bool b => some (if b then 1 else 0)
  | .str s => if s = "true" then some 1 else if s = "false" then some 0 else none
  | _ => none

/-- The word of a number without a sign. -/
def uintWord? (bits : Nat) (j : Json) : Option Word :=
  (Json.toQuantity 256 j).filter fun x => x.toNat < limit bits

/-- The number that a text with or without a sign spells. Zero has no minus sign. -/
def signed? (text : String) : Option Int :=
  let magnitude? (cs : List Char) : Option Nat :=
    ((Quantity.read 256 (String.ofList cs)).toOption).map BitVec.toNat
  match text.toList with
  | '+' :: cs => (magnitude? cs).map Int.ofNat
  | '-' :: cs => (magnitude? cs).bind fun n => if n = 0 then none else some (-(n : Int))
  | cs => (magnitude? cs).map Int.ofNat

/-- The word of a number with a sign, in two's complement. -/
def intWord? (bits : Nat) (j : Json) : Option Word :=
  let value? : Option Int :=
    match j with
    | .int n => some n
    | .str s => signed? s
    | _ => none
  let half : Int := limit (bits - 1)
  (value?.filter fun n => -half ≤ n && n < half).map (BitVec.ofInt 256)

/-- The word of a scalar; nothing if the value does not have the type. -/
def scalarWord? : ValueType → Json → Option Word
  | .bool, j => boolWord? j
  | .address, j => (hexOf? 20 j).map fun bs => (Address.ofBytes bs).toWord
  | .function, j => (hexOf? 24 j).map leftAligned
  | .string, j => (Json.toText j).map fun s => (keccak256 (Bytes.ofText s)).bits
  | .bytes, j => (Json.toBytes j).map fun bs => (keccak256 bs).bits
  | .uint bits, j => uintWord? bits j
  | .int bits, j => intWord? bits j
  | .fixedBytes size, j => (hexOf? size j).map leftAligned
  | _, _ => none

/-! ## Arrays and records -/

mutual

/-- The word of a value. -/
def word : ValueType → Json → Except Fault Word
  | .array item, j =>
    match j with
    | .arr items => do return (keccak256 (wordsBytes (← items.mapM (word item)))).bits
    | _ => .error (.mismatch (ValueType.array item).name j)
  | .fixedArray item length, j =>
    match j with
    | .arr items =>
      if items.length = length then do
        return (keccak256 (wordsBytes (← items.mapM (word item)))).bits
      else .error (.mismatch (ValueType.fixedArray item length).name j)
    | _ => .error (.mismatch (ValueType.fixedArray item length).name j)
  | .record written members, j =>
    match j with
    | .obj values => do
      return (hashRecord written (← memberWords (ValueType.record written members).name j values members)).bits
    | _ => .error (.mismatch (ValueType.record written members).name j)
  | type, j =>
    match scalarWord? type j with
    | some w => .ok w
    | none => .error (.mismatch type.name j)

/-- The words of the members of a record. A member that is not there is a fault of the whole
record, whose type has the name `type`. -/
def memberWords (type : String) (record : Json) (values : List (String × Json)) :
    List (String × ValueType) → Except Fault (List Word)
  | [] => .ok []
  | (name, memberType) :: rest =>
    match Json.lookup name values with
    | none => .error (.mismatch type record)
    | some value => do
      let w ← word memberType value
      let ws ← memberWords type record values rest
      return w :: ws

end

/-- The word of a record is the hash of its words. -/
theorem word_record {written : String} {members : List (String × ValueType)}
    {values : List (String × Json)} {words : List Word}
    (h : memberWords (ValueType.record written members).name (.obj values) values members
      = .ok words) :
    word (.record written members) (.obj values) = .ok (hashRecord written words).bits := by
  simp [word, h, bind, Except.bind, pure, Except.pure]

end TypedData

end SafeOps
