import SafeOps.EntryPoint
import SafeOps.Estimation
import SafeOps.Input

/-!
# `SafeOps.UserOperation`: operations as bundlers take them

A user operation has a sender, a nonce, the data of a call, gas fields, a signature, and
what deploys the sender and who pays. The two entry point generations differ in the
last: the first has both in packed form, the second in separate fields, and it wants most
gas fields to fit 128 bits.

`initCode` and `paymasterAndData` give the packed form for both generations. `merge`
puts the fields an estimation knows into an operation.
-/

set_option autoImplicit false

namespace SafeOps

/-- The gas fields of a user operation. -/
structure Gas where
  /-- Gas for the execution. -/
  call : Word
  /-- Gas for the validation. -/
  verification : Word
  /-- Gas for what the bundler does around the operation. -/
  preVerification : Word
  /-- The most to pay per gas. -/
  maxFee : Word
  /-- The tip per gas. -/
  maxPriorityFee : Word
  deriving DecidableEq, Repr

namespace Gas

/-- What stands in all fields until an estimation knows better. -/
def placeholder : Gas := ⟨1, 1, 1, 1, 1⟩

/-- Replaces the fields an estimation knows. -/
def merge (g : Gas) (e : Estimation) : Gas where
  call := e.callGas.getD g.call
  verification := e.verificationGas.getD g.verification
  preVerification := e.preVerificationGas.getD g.preVerification
  maxFee := e.maxFee.getD g.maxFee
  maxPriorityFee := e.maxPriorityFee.getD g.maxPriorityFee

end Gas

/-- Who pays for an operation, in separate fields. -/
structure Paymaster where
  address : Option Address := none
  /-- Gas for the paymaster's validation. -/
  verificationGas : Option Word := none
  /-- Gas for the paymaster after the execution. -/
  postOpGas : Option Word := none
  data : Option Bytes := none
  deriving DecidableEq, Repr

/-- What deploys the sender and who pays, as each generation writes it. -/
inductive Shape where
  /-- Both in packed form. -/
  | v06 (initCode paymasterAndData : Bytes)
  /-- Both in separate fields. -/
  | v07 (factory : Option Address) (factoryData : Option Bytes) (paymaster : Paymaster)
  deriving DecidableEq, Repr

/-- A user operation. -/
structure UserOperation where
  /-- The account. -/
  sender : Address
  nonce : Word
  /-- The data of the call of the account. -/
  callData : Bytes
  gas : Gas
  shape : Shape
  /-- The span of time and the signatures of the owners. -/
  signature : Bytes
  deriving DecidableEq, Repr

/-- A user operation before it takes the shape of a generation. -/
structure Draft where
  sender : Address
  nonce : Word
  callData : Bytes
  /-- The factory that deploys the sender, and the data it is called with. -/
  deployment : Option (Address × Bytes) := none
  gas : Gas := Gas.placeholder
  deriving DecidableEq, Repr

/-- The quantity in fewer bits, the largest one if it does not fit. -/
def clamp {width : Nat} (bits : Nat) (x : BitVec width) : BitVec bits :=
  if x.toNat < limit bits then x.setWidth bits else BitVec.allOnes bits

namespace Paymaster

/-- The packed form: address, both gas limits with 128 bits each, data. Without an
address it is empty. -/
def pack (p : Paymaster) : Bytes :=
  match p.address with
  | none => []
  | some address =>
    address.toBytes
      ++ Bytes.ofBits 16 (clamp 128 (p.verificationGas.getD 0))
      ++ Bytes.ofBits 16 (clamp 128 (p.postOpGas.getD 0))
      ++ p.data.getD []

/-- The size of what stands before the data in packed form. -/
def headerSize : Nat := 52

/-- Takes the packed form apart; anything shorter than the header means no paymaster. -/
def unpack (packed : Bytes) : Paymaster :=
  if packed.length < headerSize then {}
  else
    { address := some (Address.ofBytes (packed.take 20))
      verificationGas := some (Bytes.toBits 256 ((packed.drop 20).take 16))
      postOpGas := some (Bytes.toBits 256 ((packed.drop 36).take 16))
      data := some (packed.drop headerSize) }

/-- Replaces the fields an estimation knows. The packed form counts only where the
estimation names no address of its own. -/
def merge (p : Paymaster) (e : Estimation) : Paymaster :=
  let base :=
    match e.paymaster, e.paymasterAndData with
    | none, some packed => unpack packed
    | _, _ => p
  { address := e.paymaster.or base.address
    verificationGas := e.paymasterVerificationGas.or base.verificationGas
    postOpGas := e.paymasterPostOpGas.or base.postOpGas
    data := e.paymasterData.or base.data }

end Paymaster

namespace Shape

/-- The generation a shape belongs to. -/
def generation : Shape → EntryPoint
  | .v06 .. => .v06
  | .v07 .. => .v07

/-- What deploys the sender: the factory and its data, empty without a factory. -/
def initCode : Shape → Bytes
  | .v06 code _ => code
  | .v07 none _ _ => []
  | .v07 (some factory) data _ => factory.toBytes ++ data.getD []

/-- Who pays, in packed form. -/
def paymasterAndData : Shape → Bytes
  | .v06 _ packed => packed
  | .v07 _ _ paymaster => paymaster.pack

/-- Replaces the fields an estimation knows. A packed field of the first generation is
taken whole, or put together from an address and its data. -/
def merge (e : Estimation) : Shape → Shape
  | .v06 code packed =>
    let packed' :=
      match e.paymasterAndData, e.paymaster with
      | some whole, _ => whole
      | none, some address => address.toBytes ++ e.paymasterData.getD []
      | none, none => packed
    .v06 code packed'
  | .v07 factory data paymaster => .v07 factory data (paymaster.merge e)

/-- The shape of a generation that deploys the sender and has no paymaster. -/
def ofDeployment (generation : EntryPoint) (deployment : Option (Address × Bytes)) : Shape :=
  match generation, deployment with
  | .v06, none => .v06 [] []
  | .v06, some (factory, data) => .v06 (factory.toBytes ++ data) []
  | .v07, none => .v07 none none {}
  | .v07, some (factory, data) => .v07 (some factory) (some data) {}

end Shape

namespace UserOperation

/-- The generation of an operation. -/
def generation (op : UserOperation) : EntryPoint :=
  op.shape.generation

/-- What deploys the sender. -/
def initCode (op : UserOperation) : Bytes :=
  op.shape.initCode

/-- Who pays, in packed form. -/
def paymasterAndData (op : UserOperation) : Bytes :=
  op.shape.paymasterAndData

/-- The fields that have to fit 128 bits, in the order they are checked. -/
def narrowFields (op : UserOperation) : List (String × Word) :=
  match op.shape with
  | .v06 .. => []
  | .v07 _ _ paymaster =>
    [("call_gas_limit", op.gas.call), ("verification_gas_limit", op.gas.verification),
     ("max_fee_per_gas", op.gas.maxFee), ("max_priority_fee_per_gas", op.gas.maxPriorityFee)]
    ++ (paymaster.verificationGas.map ("paymaster_verification_gas_limit", ·)).toList
    ++ (paymaster.postOpGas.map ("paymaster_post_op_gas_limit", ·)).toList

/-- Checks fields that have to fit 128 bits. -/
def checkFields : List (String × Word) → Except InputError Unit
  | [] => .ok ()
  | (field, x) :: rest =>
    match Input.narrow 128 field x with
    | .error e => .error e
    | .ok _ => checkFields rest

/-- Checks that all fields of an operation fit, and gives it back. -/
def checked (op : UserOperation) : Except InputError UserOperation :=
  (checkFields op.narrowFields).map fun _ => op

/-- A draft in the shape of a generation, without a check. -/
def shaped (generation : EntryPoint) (d : Draft) : UserOperation where
  sender := d.sender
  nonce := d.nonce
  callData := d.callData
  gas := d.gas
  shape := .ofDeployment generation d.deployment
  signature := []

/-- A draft in the shape of a generation. -/
def ofDraft (generation : EntryPoint) (d : Draft) : Except InputError UserOperation :=
  (shaped generation d).checked

/-- The operation with the fields an estimation knows replaced, without a check. -/
def applied (op : UserOperation) (e : Estimation) : UserOperation :=
  { op with gas := op.gas.merge e, shape := op.shape.merge e }

/-- Replaces the fields an estimation knows, and answers whether they fit. An operation of the
first generation takes anything. One of the second is left as it is unless all fields of the
new one fit. -/
def merge (op : UserOperation) (e : Estimation) : Except InputError Unit × UserOperation :=
  let next := op.applied e
  match op.generation with
  | .v06 => (.ok (), next)
  | .v07 =>
    match checkFields next.narrowFields with
    | .ok () => (.ok (), next)
    | .error fault => (.error fault, op)

/-- The operation with another signature. -/
def withSignature (op : UserOperation) (signature : Bytes) : UserOperation :=
  { op with signature }

end UserOperation

end SafeOps
