import SafeOps.Contract
import SafeOps.Signing

/-!
# `SafeOps.Signing.Passkey`: passkeys as owners

A passkey cannot be an owner by itself. The owner is a contract shared by all accounts,
which knows the public key of an account's passkey and checks its signatures.

An authenticator signs a JSON text that holds the hash in question as its challenge. The
contract puts that text together again, so a signature carries only what follows the
challenge: `clientDataFields` cuts it out.
-/

set_option autoImplicit false

namespace SafeOps

/-- A credential that signs challenges. -/
structure Passkey where
  /-- The name of the credential. -/
  id : Bytes
  /-- The first coordinate of its public key. -/
  x : Word
  /-- The second coordinate of its public key. -/
  y : Word
  /-- The contracts that check its signatures. -/
  verifiers : BitVec 176
  deriving DecidableEq, Repr

/-- The answer of an authenticator. -/
structure Assertion where
  authenticatorData : Bytes
  /-- The JSON text that was signed. -/
  clientData : String
  r : Word
  s : Word
  deriving DecidableEq, Repr

namespace Passkey

/-- What the shared signer stores about a passkey, as an argument of its function. -/
def configuration (p : Passkey) : Word × Word × BitVec 176 × Unit :=
  (p.x, p.y, p.verifiers, ())

/-- What stands in front of the challenge. -/
def challengeMark : List Char :=
  "\"challenge\":\"".toList

/-- What follows the first place at which a text has a mark. -/
def after? (mark : List Char) : List Char → Option (List Char)
  | [] => if mark.isEmpty then some [] else none
  | c :: cs =>
    if mark.isPrefixOf (c :: cs) then some ((c :: cs).drop mark.length) else after? mark cs

/-- The text without a closing brace and the blanks after it. -/
def dropBrace? (cs : List Char) : Option (List Char) :=
  -- Blanks in front are part of the fields and stay.
  let trimmed := Text.dropBlanksRight cs
  if trimmed.getLast? = some '\x7d' then some trimmed.dropLast else none

/-- The text without a comma in front. -/
def dropComma : List Char → List Char
  | ',' :: rest => rest
  | cs => cs

/-- What follows the challenge in a JSON text, up to the brace that closes it. -/
def clientDataFields (text : String) : Except AssertionFault String :=
  match after? challengeMark text.toList with
  | none => .error .noChallenge
  | some rest =>
    match Text.splitOnce '"' rest with
    | none => .error .unterminatedChallenge
    | some (_, tail) =>
      match dropBrace? tail with
      | none => .error .notAnObject
      | some fields => .ok (String.ofList (dropComma fields))

/-- The layout of a signature: authenticator data, fields after the challenge, and the two
numbers. -/
abbrev signatureTypes : List Abi.Ty :=
  [.bytes, .bytes, .tuple [.uint 256, .uint 256]]

/-- The bytes of a signature. -/
def encodeSignature (authenticatorData : Bytes) (fields : String) (r s : Word) : Bytes :=
  Abi.encode signatureTypes (authenticatorData, Bytes.ofText fields, (r, s, ()), ())

/-- The signature an authenticator's answer stands for, given in the name of the shared
signer. -/
def toSignature (sharedSigner : Address) (a : Assertion) : Except SignerError OwnerSignature :=
  match clientDataFields a.clientData with
  | .error fault => .error (.invalidAssertion fault)
  | .ok fields =>
    .ok (.ofContract sharedSigner (encodeSignature a.authenticatorData fields a.r a.s))

/-- A signature of the size of a real one, to estimate gas with. -/
def dummySignature (sharedSigner : Address) : OwnerSignature :=
  let authenticatorData := List.replicate 32 0xFE ++ [0x05] ++ List.replicate 4 0xFE
  let word : Word := Bytes.toBits 256 (List.replicate 32 0xEC)
  .ofContract sharedSigner
    (encodeSignature authenticatorData "\"origin\":\"https://safe.global\",\"crossOrigin\":false"
      word word)

end Passkey

end SafeOps
