import SafeOps.Address
import SafeOps.Text.Utf8

/-!
# `SafeOps.Abi`: contract calls

Arguments of a contract call are laid out in words of 32 bytes. Scalars and tuples of
scalars stand in the head in place. Byte strings, texts and arrays stand in the tail:
a word with their size, then their content; the head holds the offset of that word,
counted from the first argument.

* `encode ts vs` lays out values of the types `ts`.
* `decode ts args` reads them back. It is lenient: the high bytes of a narrow scalar,
  padding, overlaps and trailing bytes do not matter, but all content has to be there.
* `Function` pairs a name with argument types; `Function.encode` and
  `Function.decode` are the pair above behind the four bytes of its selector.
-/

set_option autoImplicit false

namespace SafeOps.Abi

/-! ## Types and values -/

/-- A type whose values fill one word. -/
inductive Scalar where
  | address
  | bool
  | uint (bits : Nat)
  deriving DecidableEq, Repr

/-- The values of a scalar type. -/
abbrev Scalar.Val : Scalar → Type
  | .address => Address
  | .bool => Bool
  | .uint bits => BitVec bits

/-- The name of a scalar type in a signature. -/
def Scalar.name : Scalar → String
  | .address => "address"
  | .bool => "bool"
  | .uint bits => "uint" ++ toString bits

/-- The word that holds a scalar. -/
def Scalar.toWord : (s : Scalar) → s.Val → Word
  | .address, a => a.toWord
  | .bool, b => if b then 1 else 0
  | .uint _, x => x.setWidth 256

/-- The scalar in the low bits of a word; any word but zero is true. -/
def Scalar.ofWord : (s : Scalar) → Word → s.Val
  | .address, w => Address.ofWord w
  | .bool, w => w ≠ 0
  | .uint bits, w => w.setWidth bits

/-- The values of a tuple of scalars. -/
abbrev Tuple : List Scalar → Type
  | [] => Unit
  | s :: ss => s.Val × Tuple ss

/-- The type of one argument. -/
inductive Ty where
  | scalar (s : Scalar)
  /-- Scalars side by side, as a record or an array of fixed length has them. -/
  | tuple (ss : List Scalar)
  /-- Any number of scalars of one type. -/
  | array (s : Scalar)
  | bytes
  | string
  deriving DecidableEq, Repr

/-- The values of an argument type. -/
abbrev Ty.Val : Ty → Type
  | .scalar s => s.Val
  | .tuple ss => Tuple ss
  | .array s => List s.Val
  | .bytes => Bytes
  | .string => String

/-- The name of an argument type in a signature. -/
def Ty.name : Ty → String
  | .scalar s => s.name
  | .tuple ss => "(" ++ String.intercalate "," (ss.map Scalar.name) ++ ")"
  | .array s => s.name ++ "[]"
  | .bytes => "bytes"
  | .string => "string"

/-- The values of several arguments. -/
abbrev Vals : List Ty → Type
  | [] => Unit
  | t :: ts => t.Val × Vals ts

/-! ## Writing -/

/-- The bytes of a word. -/
def wordBytes (w : Word) : Bytes :=
  Bytes.ofBits 32 w

/-- The word that holds a size or an offset. -/
def sizeBytes (n : Nat) : Bytes :=
  Bytes.ofNat 32 n

/-- The words of a tuple. -/
def tupleBytes : (ss : List Scalar) → Tuple ss → Bytes
  | [], _ => []
  | s :: ss, (v, vs) => wordBytes (s.toWord v) ++ tupleBytes ss vs

/-- The bytes an argument takes up in the head. -/
def Ty.headSize : Ty → Nat
  | .tuple ss => 32 * ss.length
  | _ => 32

/-- What an argument puts into the head when its tail starts at `offset`. -/
def Ty.head (offset : Nat) : (t : Ty) → t.Val → Bytes
  | .scalar s, v => wordBytes (s.toWord v)
  | .tuple ss, vs => tupleBytes ss vs
  | _, _ => sizeBytes offset

/-- What an argument puts into the tail. -/
def Ty.tail : (t : Ty) → t.Val → Bytes
  | .scalar _, _ => []
  | .tuple _, _ => []
  | .array s, vs => sizeBytes vs.length ++ vs.flatMap fun v => wordBytes (s.toWord v)
  | .bytes, bs => sizeBytes bs.length ++ Bytes.pad32 bs
  | .string, s => sizeBytes (Bytes.ofText s).length ++ Bytes.pad32 (Bytes.ofText s)

/-- The size of the head of several arguments. -/
def headSize (ts : List Ty) : Nat :=
  ts.foldr (fun t size => t.headSize + size) 0

/-- The head of several arguments whose tails start at `offset`. -/
def heads (offset : Nat) : (ts : List Ty) → Vals ts → Bytes
  | [], _ => []
  | t :: ts, (v, vs) => t.head offset v ++ heads (offset + (t.tail v).length) ts vs

/-- The tails of several arguments. -/
def tails : (ts : List Ty) → Vals ts → Bytes
  | [], _ => []
  | t :: ts, (v, vs) => t.tail v ++ tails ts vs

/-- The layout of several arguments. -/
def encode (ts : List Ty) (vs : Vals ts) : Bytes :=
  heads (headSize ts) ts vs ++ tails ts vs

/-! ## Reading -/

/-- Why a call could not be read. -/
inductive Fault where
  /-- The data do not start with the selector of the function; `found` are the first
  bytes, four at most. -/
  | otherFunction (name : String) (found : Bytes)
  /-- A size or an offset that does not fit 64 bits. -/
  | sizeTooLarge (word : Word)
  /-- The data end too early. -/
  | overrun
  deriving DecidableEq, Repr

/-- A failed check of the type `expected`, with the bytes it failed on. -/
def typeCheckMessage (expected : String) (found : Bytes) : String :=
  "type check failed for \"" ++ expected ++ "\""
    ++ (if found.isEmpty then "" else " with data: " ++ String.ofList (Hex.encode found))

/-- The fault in words. -/
def Fault.message : Fault → String
  | .otherFunction name found => typeCheckMessage name found
  | .sizeTooLarge word => typeCheckMessage "offset (usize)" (wordBytes word)
  | .overrun => "ABI decoding failed: buffer overrun while deserializing"

/-- The word that starts at a position. -/
def wordAt (args : Bytes) (position : Nat) : Except Fault Word :=
  let bs := (args.drop position).take 32
  if bs.length = 32 then .ok (Bytes.toBits 256 bs) else .error .overrun

/-- The size or offset that starts at a position. -/
def sizeAt (args : Bytes) (position : Nat) : Except Fault Nat := do
  let w ← wordAt args position
  if w.toNat < limit 64 then .ok w.toNat else .error (.sizeTooLarge w)

/-- The tuple that starts at a position. -/
def tupleAt (args : Bytes) : (ss : List Scalar) → Nat → Except Fault (Tuple ss)
  | [], _ => .ok ()
  | s :: ss, position => do
    let w ← wordAt args position
    let vs ← tupleAt args ss (position + 32)
    return (s.ofWord w, vs)

/-- The byte string whose offset stands at a position. -/
def bytesAt (args : Bytes) (position : Nat) : Except Fault Bytes := do
  let offset ← sizeAt args position
  let size ← sizeAt args offset
  -- The padding after the content need not be there.
  let content := args.drop (offset + 32)
  if size ≤ content.length then .ok (content.take size) else .error .overrun

/-- The scalars in a row of words. -/
def scalarsIn (s : Scalar) : Nat → Bytes → List s.Val
  | 0, _ => []
  | n + 1, bs => s.ofWord (Bytes.toBits 256 (bs.take 32)) :: scalarsIn s n (bs.drop 32)

/-- The array whose offset stands at a position. -/
def arrayAt (args : Bytes) (s : Scalar) (position : Nat) : Except Fault (List s.Val) := do
  let offset ← sizeAt args position
  let size ← sizeAt args offset
  -- A last word that is cut short does not hold an element.
  let content := args.drop (offset + 32)
  if size ≤ content.length / 32 then .ok (scalarsIn s size content) else .error .overrun

/-- The argument whose head starts at a position. -/
def Ty.readAt (args : Bytes) (position : Nat) : (t : Ty) → Except Fault t.Val
  | .scalar s => (wordAt args position).map s.ofWord
  | .tuple ss => tupleAt args ss position
  | .array s => arrayAt args s position
  | .bytes => bytesAt args position
  | .string => (bytesAt args position).map Text.Utf8.decodeLossy

/-- The arguments whose heads start at a position, first to last. -/
def readFrom (args : Bytes) : (ts : List Ty) → Nat → Except Fault (Vals ts)
  | [], _ => .ok ()
  | t :: ts, position => do
    let v ← t.readAt args position
    let vs ← readFrom args ts (position + t.headSize)
    return (v, vs)

/-- Reads arguments. -/
def decode (ts : List Ty) (args : Bytes) : Except Fault (Vals ts) :=
  readFrom args ts 0

/-! ## Functions -/

/-- A function of a contract. -/
structure Function where
  name : String
  /-- What it takes. -/
  arguments : List Ty
  deriving DecidableEq, Repr

namespace Function

/-- The name and the argument types. -/
def signature (f : Function) : String :=
  f.name ++ "(" ++ String.intercalate "," (f.arguments.map Ty.name) ++ ")"

/-- The first four bytes of the hash of the signature. -/
def selector (f : Function) : Bytes :=
  (keccak256 (Bytes.ofText f.signature)).toBytes.take 4

/-- The data of a call. -/
def encode (f : Function) (vs : Vals f.arguments) : Bytes :=
  f.selector ++ Abi.encode f.arguments vs

/-- The arguments of a call. -/
def decode (f : Function) (data : Bytes) : Except Fault (Vals f.arguments) :=
  if f.selector.isPrefixOf data then Abi.decode f.arguments (data.drop 4)
  else .error (.otherFunction f.name (data.take 4))

end Function

end SafeOps.Abi
