import SafeOps.Account
import SafeOps.NonceLane

/-!
# `SafeOps.Account.Submission`: signing operations and handing them over

An operation to be signed or sent was built here or comes from an indexing service. It has
to belong to the account: to its address, its entry point and its chain. Only owners sign.
An operation is sent with the signatures it has; nobody counts them here.
-/

set_option autoImplicit false

namespace SafeOps

/-- Where an operation comes from. -/
inductive OperationSource where
  | built (operation : SafeOperation)
  /-- A record of an indexing service. -/
  | kept (record : SafeOperationRecord)

/-- What became of an operation in the end. -/
inductive Outcome where
  | confirmed (receipt : Receipt)
  /-- The operation was included, but its call failed. -/
  | failed (receipt : Receipt)
  deriving DecidableEq, Repr

/-- The outcome a receipt tells. -/
def Outcome.ofReceipt (r : Receipt) : Outcome :=
  if r.success then .confirmed r else .failed r

namespace Account

/-- Takes an operation up. -/
def takeUp (a : Account) : OperationSource → Except OperationError SafeOperation
  | .built operation => .ok operation
  | .kept record => SafeOperation.ofRecord record a.chainId

/-- In what an operation belongs elsewhere, if it does. -/
def foreignness (a : Account) (op : SafeOperation) : Option Foreignness :=
  if op.operation.sender ≠ a.address then some (.sender op.operation.sender a.address)
  else if op.context.entryPoint ≠ a.entryPoint then
    some (.entryPoint op.context.entryPoint a.entryPoint)
  else if op.context.chainId ≠ a.chainId then some (.chain op.context.chainId a.chainId)
  else none

/-- Takes an operation up that belongs to the account. -/
def normalize (a : Account) (source : OperationSource) : Except AccountError SafeOperation :=
  match a.takeUp source with
  | .error e => .error (.operation e)
  | .ok op =>
    match a.foreignness op with
    | some reason => .error (.foreign reason)
    | none => .ok op

/-- Whether an address is an owner of the account, or will be once it is deployed. -/
def isOwner (a : Account) (owner : Address) : Attempt AccountError Bool := do
  if ← readNode a.node (.isDeployed a.address) then
    return (← readNode a.node (.owners a.address)).contains owner
  else
    -- A passkey becomes an owner with the deployment, through the shared signer.
    let predicted :=
      match a.deployment with
      | some deployment => deployment.owners.contains owner
      | none => false
    return predicted || a.signer.isPasskey

/-- What a failure to sign means for an account. -/
def ofSignerError : SignerError → AccountError
  | .noMethod signer => .noMethod signer
  | e => .signer e

/-- Adds the signature of the account's signer to an operation. -/
def sign (a : Account) (source : OperationSource) (method : SigningMethod) :
    Attempt AccountError SafeOperation := Attempt.within logModule do
  let op ← Attempt.ofExcept (a.normalize source)
  -- The owner is asked last, so nobody signs what the account would not take.
  let owner := a.signer.owner a.contracts.sharedSigner
  if !(← a.isOwner owner) then throw (.notOwner owner a.address)
  let signature ← Attempt.mapError ofSignerError
    (a.signer.sign op method a.contracts.sharedSigner)
  Attempt.tell .debug ("pack.sign_safe_operation signer=" ++ owner.checksummed
    ++ " safe_operation_hash=" ++ Hex.render op.hash.toBytes)
  return op.addSignature signature

/-- Hands an operation over to the bundler. -/
def execute (a : Account) (source : OperationSource) : Attempt AccountError Hash :=
    Attempt.within logModule do
  let op ← Attempt.ofExcept (a.normalize source)
  if op.signatures.isEmpty then
    Attempt.tell .warn ("pack.execute_transaction.unsigned safe_operation_hash="
      ++ Hex.render op.hash.toBytes)
  let hash ← Attempt.mapError .rejected
    (Rpc.Bundler.send a.bundler op.toSigned a.entryPoint)
  -- The bundler tells its own hash. It counts, but a difference is worth a warning.
  if hash = op.entryPointHash then
    Attempt.tell .info ("pack.execute_transaction.submitted user_op_hash="
      ++ Hex.render hash.toBytes)
  else
    Attempt.tell .warn ("pack.execute_transaction.hash_mismatch bundler="
      ++ Hex.render hash.toBytes ++ " local=" ++ Hex.render op.entryPointHash.toBytes)
  return hash

/-! ## Questions -/

/-- The operation with a hash, if the bundler knows it. -/
def lookup (a : Account) (hash : Hash) : Attempt AccountError (Option Lookup) :=
  Attempt.within logModule (Attempt.mapError .rpc (Rpc.Bundler.lookup a.bundler hash))

/-- What became of the operation with a hash, if anything. -/
def receipt (a : Account) (hash : Hash) : Attempt AccountError (Option Receipt) :=
  Attempt.within logModule (Attempt.mapError .rpc (Rpc.Bundler.receipt a.bundler hash))

/-- The entry points the bundler works with. -/
def bundlerEntryPoints (a : Account) : Attempt AccountError (List Address) :=
  Attempt.within logModule (Attempt.mapError .rpc (Rpc.Bundler.entryPoints a.bundler))

/-- The chain the bundler works on. -/
def bundlerChainId (a : Account) : Attempt AccountError (BitVec 64) :=
  Attempt.within logModule (Attempt.mapError .rpc (Rpc.Bundler.chainId a.bundler))

/-- What a token is worth to the paymaster. -/
def tokenRate (a : Account) (token : Address) : Attempt AccountError TokenQuote :=
    Attempt.within logModule do
  match a.payment with
  | none => throw (.options .noPaymaster)
  | some payment =>
    let server ← Attempt.ofExcept ((Rpc.connect payment.url).mapError .rpc)
    let quotes ← Attempt.mapError .rpc
      (Rpc.PaymasterService.quotes server [token] a.entryPoint a.chainId)
    match quotes.find? fun quote => quote.token = token with
    | some quote => return quote
    | none => throw (.rpc (.result (.noQuote token)))

/-- The next place in a lane of nonces. -/
def nextNonce (a : Account) (key : BitVec 192) : Attempt AccountError NonceLane :=
    Attempt.within logModule do
  return .ofNonce (← readNode a.node (.nonce a.entryPoint a.address key))

/-- Whether the account is deployed. -/
def isDeployed (a : Account) : Attempt AccountError Bool :=
  Attempt.within logModule (readNode a.node (.isDeployed a.address))

/-- Asks for the receipt of an operation until there is one, `polls` times at most. -/
def pollReceipt (a : Account) (hash : Hash) : Nat → Attempt AccountError (Option Outcome)
  | 0 => return none
  | polls + 1 => do
    match ← Attempt.mapError .rpc (Rpc.Bundler.receipt a.bundler hash) with
    | some receipt =>
      Attempt.tell .info ("pack.receipt user_op_hash=" ++ Hex.render hash.toBytes ++ " success="
        ++ toString receipt.success ++ " tx=" ++ Hex.render receipt.bundle.transactionHash.toBytes)
      return some (.ofReceipt receipt)
    | none =>
      -- No receipt yet: let time pass before the next question.
      Attempt.always (Program.query .pause)
      a.pollReceipt hash polls

/-- Waits for the outcome of an operation. There is none if `polls` questions found no
receipt. -/
def awaitReceipt (a : Account) (hash : Hash) (polls : Nat) :
    Attempt AccountError (Option Outcome) :=
  Attempt.within logModule (a.pollReceipt hash polls)

end Account

end SafeOps
