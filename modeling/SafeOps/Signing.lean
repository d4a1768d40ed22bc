import SafeOps.SafeOperation

/-!
# `SafeOps.Signing`: ways to ask for a signature

Wallets sign structured messages through one of three methods. A wallet may lack some of
them, so one asks with the preferred method first and then with the others, newest first.
-/

set_option autoImplicit false

namespace SafeOps

/-- A method of wallets to sign structured messages. -/
inductive SigningMethod where
  | v4
  | v3
  | legacy
  deriving DecidableEq, Repr

namespace SigningMethod

/-- The name of a method. -/
def name : SigningMethod → String
  | .v4 => "eth_signTypedData_v4"
  | .v3 => "eth_signTypedData_v3"
  | .legacy => "eth_signTypedData"

/-- All methods, newest first. -/
def all : List SigningMethod := [.v4, .v3, .legacy]

/-- The methods in the order in which they are tried. -/
def strategies (preferred : SigningMethod) : List SigningMethod :=
  preferred :: all.filter (· ≠ preferred)

end SigningMethod

/-- Why a text is no private key. -/
inductive KeyFault where
  | hex (fault : Hex.Fault)
  /-- The number is zero or beyond the order of the curve. -/
  | outOfRange
  deriving DecidableEq, Repr

/-- The fault in words. -/
def KeyFault.message : KeyFault → String
  | .hex fault => fault.message
  | .outOfRange => "signature error"

/-- Why the answer of a passkey cannot be used. -/
inductive AssertionFault where
  | noChallenge
  | unterminatedChallenge
  | notAnObject
  deriving DecidableEq, Repr

/-- The fault in words. -/
def AssertionFault.message : AssertionFault → String
  | .noChallenge => "clientDataJSON has no challenge"
  | .unterminatedChallenge => "unterminated challenge"
  | .notAnObject => "clientDataJSON is not an object"

/-- Why there is no signature. -/
inductive SignerError where
  /-- The signer lacks the method. -/
  | unsupported (method : SigningMethod)
  /-- The signer lacks all methods that were tried. -/
  | noMethod (signer : Address)
  /-- The signer failed. -/
  | failed (message : String)
  | invalidKey (fault : KeyFault)
  | invalidAssertion (fault : AssertionFault)
  | operation (error : OperationError)
  /-- Any other failure, in words. -/
  | other (message : String)
  deriving DecidableEq, Repr

/-- That no method is supported, in words. -/
def noMethodMessage (signer : Address) : String :=
  "signer " ++ signer.checksummed ++ " does not support any typed data signing method"

/-- The error in words. -/
def SignerError.message : SignerError → String
  | .unsupported method => method.name ++ " is not supported by this signer"
  | .noMethod signer => noMethodMessage signer
  | .failed message => "signing failed: " ++ message
  | .invalidKey fault => "invalid private key: " ++ fault.message
  | .invalidAssertion fault => "invalid WebAuthn assertion: " ++ fault.message
  | .operation error => error.message
  | .other message => message

end SafeOps
