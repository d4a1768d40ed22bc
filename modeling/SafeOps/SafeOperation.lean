import SafeOps.Signature
import SafeOps.Timestamp
import SafeOps.UserOperation.Hash

/-!
# `SafeOps.SafeOperation`: an operation on its way to be signed and sent

A `SafeOperation` is a user operation, what its signatures are bound to, and the
signatures collected so far. It is made from a draft or from an operation of a bundler's
shape, whose signature is dropped. While nobody has signed, estimations can be put into it;
afterwards they are refused, since they would change what was signed.

The operation that goes to the bundler carries the span of time and the signatures in its
signature field.
-/

set_option autoImplicit false

namespace SafeOps

/-- Why a record of an indexing service was refused. -/
inductive RecordFault where
  | noSender
  /-- A quantity is not spelled right. -/
  | quantity (error : InputError)
  | timestamp (text : String) (fault : Timestamp.Fault)
  /-- The timestamp lies before 1970. -/
  | beforeEpoch (text : String)
  deriving DecidableEq, Repr

/-- The fault in words. -/
def RecordFault.message : RecordFault → String
  | .noSender => "record carries no user operation sender"
  | .quantity error => error.message
  | .timestamp text fault => "invalid timestamp " ++ text ++ ": " ++ fault.message
  | .beforeEpoch text => "timestamp " ++ text ++ " predates the unix epoch"

/-- Why an operation was refused. -/
inductive OperationError where
  | config (error : ConfigError)
  /-- The entry point does not take operations of this generation. -/
  | wrongGeneration (entryPoint : Address) (generation : EntryPoint)
  /-- The operation carries signatures, so its fields are fixed. -/
  | signed (signatures : Nat)
  /-- A field does not fit. -/
  | tooWide (error : InputError)
  | window (fault : WindowFault)
  | record (fault : RecordFault)
  /-- The message for wallets cannot be read. -/
  | typedData
  /-- Any other failure, in words. -/
  | other (message : String)
  deriving DecidableEq, Repr

/-- The error in words. -/
def OperationError.message : OperationError → String
  | .config error => error.message
  | .wrongGeneration entryPoint generation =>
    "entry point " ++ entryPoint.checksummed ++ " does not accept " ++ generation.name
      ++ " user operations"
  | .signed signatures =>
    "cannot merge estimations into an operation that already carries "
      ++ toString signatures ++ " signature(s); clear the signatures first"
  | .tooWide error => error.message
  | .window fault => "invalid validity window: " ++ fault.message
  | .record fault => "invalid Safe operation record: " ++ fault.message
  | .typedData => "invalid typed data: value does not deserialize"
  | .other message => message

/-- An operation on its way to be signed and sent. -/
structure SafeOperation where
  /-- The operation; its signature field is empty. -/
  operation : UserOperation
  context : SigningContext
  signatures : SignatureSet

namespace SafeOperation

/-- The generation of the entry point in a context whose span of time is sound. -/
def checkContext (c : SigningContext) : Except OperationError EntryPoint := do
  c.checkWindow.mapError .window
  (EntryPoint.ofAddress c.entryPoint).mapError .config

/-- Gives a draft the shape its entry point wants. -/
def ofDraft (d : Draft) (c : SigningContext) : Except OperationError SafeOperation := do
  let generation ← checkContext c
  let operation ← (UserOperation.ofDraft generation d).mapError .tooWide
  return ⟨operation, c, .empty⟩

/-- Takes an operation of a bundler's shape, without its signature. -/
def ofUserOperation (op : UserOperation) (c : SigningContext) :
    Except OperationError SafeOperation := do
  let generation ← checkContext c
  if op.generation ≠ generation then .error (.wrongGeneration c.entryPoint op.generation)
  else
    let operation ← op.checked.mapError .tooWide
    return ⟨operation.withSignature [], c, .empty⟩

/-! ## Views -/

/-- What owners sign. -/
def hash (s : SafeOperation) : Hash :=
  s.operation.ownerHash s.context

/-- What owners sign, as a message for wallets. -/
def typedData (s : SafeOperation) : Except OperationError TypedData :=
  match TypedData.ofJson? (s.operation.payload s.context) with
  | some data => .ok data
  | none => .error .typedData

/-- The hash the entry point and bundlers know the operation by. -/
def entryPointHash (s : SafeOperation) : Hash :=
  s.operation.entryPointHash s.context.entryPoint s.context.chainId

/-- The span of time, as it stands in front of the signatures: six bytes per bound. -/
def windowBytes (c : SigningContext) : Bytes :=
  Bytes.ofBits 6 c.validAfter ++ Bytes.ofBits 6 c.validUntil

/-- The operation for the bundler, with the given signatures. -/
def toSignedWith (s : SafeOperation) (signatures : SignatureSet) : UserOperation :=
  s.operation.withSignature (windowBytes s.context ++ signatures.encode)

/-- The operation for the bundler. -/
def toSigned (s : SafeOperation) : UserOperation :=
  s.toSignedWith s.signatures

/-! ## Changes -/

/-- Puts an estimation into an operation nobody has signed. An estimation that knows
nothing is no change and always allowed. The answer comes with the operation as it stands
afterwards. -/
def addEstimation (s : SafeOperation) (e : Estimation) :
    Except OperationError Unit × SafeOperation :=
  if e.isEmpty then (.ok (), s)
  else if !s.signatures.isEmpty then (.error (.signed s.signatures.size), s)
  else
    let (answer, operation) := s.operation.merge e
    (answer.mapError .tooWide, { s with operation })

/-- Adds a signature, in place of one of the same owner. -/
def addSignature (s : SafeOperation) (signature : OwnerSignature) : SafeOperation :=
  { s with signatures := s.signatures.add signature }

/-- Drops all signatures. -/
def clearSignatures (s : SafeOperation) : SafeOperation :=
  { s with signatures := .empty }

end SafeOperation

end SafeOps
