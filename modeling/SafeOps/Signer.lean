import SafeOps.Program

/-!
# `SafeOps.Signer`: the owner that signs

The owner is a key, which signs structured messages, or a passkey, which signs the hash of
an operation in the name of the shared signer. A key is asked through one method after the
other until one is supported.
-/

set_option autoImplicit false

namespace SafeOps

/-- The owner that signs. -/
inductive Signer where
  /-- A key with an address. -/
  | key (address : Address)
  | passkey (credential : Passkey)
  deriving DecidableEq, Repr

namespace Signer

/-- The address an account knows the owner by. -/
def owner (sharedSigner : Address) : Signer → Address
  | .key address => address
  | .passkey _ => sharedSigner

/-- Whether the owner is a passkey. -/
def isPasskey : Signer → Bool
  | .key _ => false
  | .passkey _ => true

/-- Asks a key through each method in turn until one is supported. -/
def signTypedData (address : Address) (data : TypedData) :
    List SigningMethod → Attempt SignerError Secp256k1.Signature
  | [] => throw (.noMethod address)
  | method :: rest => do
    match ← Attempt.always (Program.query (.typedSignature method data)) with
    -- Only a method that is not supported leads on to the next one.
    | .ok signature => return signature
    | .error (.unsupported _) =>
      Attempt.tell .debug ("signer.strategy_unsupported method=" ++ method.name)
      signTypedData address data rest
    | .error e => throw e

/-- Asks a passkey to sign a hash. -/
def signHash (sharedSigner : Address) (hash : Hash) : Attempt SignerError OwnerSignature := do
  let assertion ← Attempt.ofProgram (Program.query (.assertion hash))
  Attempt.ofExcept (Passkey.toSignature sharedSigner assertion)

/-- Signs an operation. -/
def sign (s : Signer) (op : SafeOperation) (method : SigningMethod) (sharedSigner : Address) :
    Attempt SignerError OwnerSignature :=
  match s with
  | .key address => do
    let data ← Attempt.ofExcept (op.typedData.mapError .operation)
    let signature ← signTypedData address data method.strategies
    return .ofKey address signature
  | .passkey credential => do
    Attempt.tell .debug ("signer.passkey raw_id=" ++ Hex.render credential.id)
    signHash sharedSigner op.hash

/-- A signature of the size of a real one, to estimate gas with. -/
def dummySignature (sharedSigner : Address) : Signer → OwnerSignature
  | .key address => .ofBytes address (List.replicate 64 0xFF ++ [0x1F])
  | .passkey _ => Passkey.dummySignature sharedSigner

end Signer

end SafeOps
