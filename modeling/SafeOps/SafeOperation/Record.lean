import SafeOps.SafeOperation

/-!
# `SafeOps.SafeOperation.Record`: operations kept by an indexing service

An indexing service keeps operations while their owners sign them, with quantities as
texts and points in time as timestamps. `SafeOperation.ofRecord` takes such an
operation up again: it reads the quantities, gives the operation its shape, reads the
span of time, and adds every confirmation as a signature.
-/

set_option autoImplicit false

namespace SafeOps

/-- The confirmation of an owner, as an indexing service keeps it. -/
structure Confirmation where
  created : String
  modified : Option String
  owner : Address
  signature : Bytes
  /-- The kind of the signature; one of them means that a contract checks it. -/
  signatureType : String
  deriving DecidableEq, Repr

/-- The user operation inside a record. -/
structure UserOperationRecord where
  transactionHash : Option String
  sender : Address
  hash : String
  nonce : String
  initCode : Option Bytes
  callData : Bytes
  callGas : String
  verificationGas : String
  preVerificationGas : String
  maxFee : String
  maxPriorityFee : String
  paymaster : Option Address
  paymasterData : Option Bytes
  signature : Option Bytes
  entryPoint : Address
  deriving DecidableEq, Repr

/-- An operation as an indexing service keeps it. -/
structure SafeOperationRecord where
  created : String
  modified : Option String
  hash : String
  nonce : String
  initCode : Option Bytes
  callData : Bytes
  callGas : String
  verificationGas : String
  preVerificationGas : String
  maxFee : String
  maxPriorityFee : String
  paymaster : Option Address
  /-- What follows the paymaster's address in packed form. -/
  paymasterData : Option Bytes
  entryPoint : Address
  /-- The first moment in which the operation is valid, as a timestamp. -/
  validAfter : Option String
  /-- The last moment in which the operation is valid, as a timestamp. -/
  validUntil : Option String
  module : Address
  confirmations : List Confirmation
  preparedSignature : Option Bytes
  userOperation : Option UserOperationRecord
  deriving DecidableEq, Repr

namespace Confirmation

/-- The kind of the signature of a contract. -/
def contractType : String := "CONTRACT_SIGNATURE"

/-- The signature a confirmation stands for. -/
def toSignature (c : Confirmation) : OwnerSignature :=
  if c.signatureType = contractType then .ofContract c.owner c.signature
  else .ofBytes c.owner c.signature

end Confirmation

namespace SafeOperationRecord

/-- A quantity of a record. -/
def quantity (field text : String) : Except OperationError Word :=
  (Input.quantity 256 field text).mapError fun e => .record (.quantity e)

/-- The gas fields of a record. -/
def gas (r : SafeOperationRecord) : Except OperationError Gas := do
  let call ← quantity "call_gas_limit" r.callGas
  let verification ← quantity "verification_gas_limit" r.verificationGas
  let preVerification ← quantity "pre_verification_gas" r.preVerificationGas
  let maxFee ← quantity "max_fee_per_gas" r.maxFee
  let maxPriorityFee ← quantity "max_priority_fee_per_gas" r.maxPriorityFee
  return { call, verification, preVerification, maxFee, maxPriorityFee }

/-- The factory and its data, from the code that deploys an account. Code that is
shorter than an address means none. -/
def splitInitCode (code : Bytes) : Option Address × Option Bytes :=
  if code.length < 20 then (none, none)
  else (some (Address.ofBytes (code.take 20)), some (code.drop 20))

/-- Who pays, in packed form. -/
def packedPaymaster (r : SafeOperationRecord) : Bytes :=
  match r.paymaster with
  | some address => address.toBytes ++ r.paymasterData.getD []
  | none => []

/-- What deploys the sender, in the shape of a generation. The first generation has the
paymaster in it already. -/
def shape (r : SafeOperationRecord) : EntryPoint → Shape
  | .v06 => .v06 (r.initCode.getD []) r.packedPaymaster
  | .v07 =>
    let (factory, data) := splitInitCode (r.initCode.getD [])
    .v07 factory data {}

/-- The user operation of a record. In the second generation the paymaster is put in as by an
estimation, which checks that the fields fit. -/
def toUserOperation (r : SafeOperationRecord) (sender : Address) :
    Except OperationError UserOperation := do
  let nonce ← quantity "nonce" r.nonce
  let gas ← r.gas
  let generation ← (EntryPoint.ofAddress r.entryPoint).mapError .config
  let op : UserOperation := {
    sender, nonce, gas
    callData := r.callData
    shape := r.shape generation
    signature := [] }
  match generation with
  | .v06 => return op
  | .v07 =>
    let (answer, op) := op.merge { paymasterAndData := some r.packedPaymaster }
    (answer.map fun _ => op).mapError .tooWide

/-- A bound of the span of time in seconds; an absent one is zero. -/
def seconds : Option String → Except OperationError (BitVec 64)
  | none => .ok 0
  | some text =>
    match Timestamp.read text with
    | .error fault => .error (.record (.timestamp text fault))
    | .ok n => if n < 0 then .error (.record (.beforeEpoch text)) else .ok (BitVec.ofInt 64 n)

/-- What the signatures of a record are bound to. -/
def toContext (r : SafeOperationRecord) (chainId : BitVec 64) :
    Except OperationError SigningContext := do
  let validAfter ← seconds r.validAfter
  let validUntil ← seconds r.validUntil
  return { chainId, module := r.module, entryPoint := r.entryPoint, validAfter, validUntil }

end SafeOperationRecord

/-- Takes up an operation that an indexing service kept. -/
def SafeOperation.ofRecord (r : SafeOperationRecord) (chainId : BitVec 64) :
    Except OperationError SafeOperation :=
  match r.userOperation with
  | none => .error (.record .noSender)
  | some inner => do
    let op ← r.toUserOperation inner.sender
    let context ← r.toContext chainId
    let s ← SafeOperation.ofUserOperation op context
    return r.confirmations.foldl (fun s c => s.addSignature c.toSignature) s

end SafeOps
