import SafeOps.Signer
import SafeOps.Signing.LocalKey

/-!
# `SafeOps.Rehearsal.Owner`: owners in memory

An owner holds a key, or answers every challenge with one recorded assertion. Either can be
told to fail. A key can also be told to support some methods only, and then signs the same
through each of them; otherwise it supports what a key in memory supports.
-/

set_option autoImplicit false

namespace SafeOps.Rehearsal

/-- A key in memory. -/
structure KeyHolder where
  key : LocalKey
  /-- The methods that are supported, if not the usual ones. -/
  supported : Option (List SigningMethod) := none
  /-- The methods that fail, with the reasons. -/
  failures : List (SigningMethod × String) := []

/-- A passkey that answers with a record. -/
structure PasskeyHolder where
  credential : Passkey
  assertion : Assertion
  /-- Why it fails, if it does. -/
  failure : Option String := none
  deriving DecidableEq, Repr

/-- An owner in memory. -/
inductive Owner where
  | key (holder : KeyHolder)
  | passkey (holder : PasskeyHolder)

namespace KeyHolder

/-- Signs through one method. -/
def sign (h : KeyHolder) (method : SigningMethod) (data : TypedData) :
    Except SignerError Secp256k1.Signature :=
  match h.failures.lookup method, h.supported with
  | some reason, _ => .error (.failed reason)
  | none, none => h.key.sign method data
  | none, some methods =>
    if methods.contains method then h.key.sign .v4 data else .error (.unsupported method)

end KeyHolder

namespace PasskeyHolder

/-- Answers a challenge. -/
def sign (h : PasskeyHolder) : Except SignerError Assertion :=
  match h.failure with
  | some reason => .error (.failed reason)
  | none => .ok h.assertion

end PasskeyHolder

namespace Owner

/-- The owner as the library knows it. -/
def signer : Owner → Signer
  | .key holder => .key holder.key.address
  | .passkey holder => .passkey holder.credential

/-- Signs a structured message. A passkey has no such method. -/
def typedSignature (owner : Owner) (method : SigningMethod) (data : TypedData) :
    Except SignerError Secp256k1.Signature :=
  match owner with
  | .key holder => holder.sign method data
  | .passkey _ => .error (.unsupported method)

/-- Signs a challenge. A key has no such method. -/
def assertion (owner : Owner) : Except SignerError Assertion :=
  match owner with
  | .key _ => .error (.other "a key signs no challenge")
  | .passkey holder => holder.sign

end Owner

end SafeOps.Rehearsal
