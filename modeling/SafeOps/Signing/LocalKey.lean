import SafeOps.Crypto.Secp256k1
import SafeOps.Signing

/-!
# `SafeOps.Signing.LocalKey`: keys held in memory

A local key signs the hash of a structured message. It hashes a message the same way for both
newer methods, and the oldest one it does not know.
-/

set_option autoImplicit false

namespace SafeOps

/-- A private key held in memory. -/
structure LocalKey where
  key : Secp256k1.PrivateKey

namespace LocalKey

/-- Reads a key from hexadecimal digits behind any number of `0x`. -/
def ofHex (text : String) : Except SignerError LocalKey :=
  match Hex.read (some 32) (String.ofList (HexText.stripMarks text.toList)) with
  | .error fault => .error (.invalidKey (.hex fault))
  | .ok bs =>
    match Secp256k1.PrivateKey.new bs with
    | some key => .ok ⟨key⟩
    | none => .error (.invalidKey .outOfRange)

/-- The address of a key. -/
def address (k : LocalKey) : Address :=
  k.key.address

/-- Signs a hash. -/
def signHash (k : LocalKey) (h : Hash) : Except SignerError Secp256k1.Signature :=
  match k.key.sign h with
  | some signature => .ok signature
  | none => .error (.failed "signature error")

/-- Signs a structured message by its hash. -/
def signTypedData (k : LocalKey) (data : TypedData) :
    Except SignerError Secp256k1.Signature :=
  match data.signingHash with
  | .ok h => k.signHash h
  | .error fault => .error (.failed fault.message)

/-- Signs a structured message through a method, if the key knows it. -/
def sign (k : LocalKey) (method : SigningMethod) (data : TypedData) :
    Except SignerError Secp256k1.Signature :=
  match method with
  | .v4 => k.signTypedData data
  | .v3 => k.signTypedData data
  | .legacy => .error (.unsupported .legacy)

end LocalKey

end SafeOps
