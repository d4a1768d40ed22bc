import SafeOps.TypedData.RecordTypes
import SafeOps.TypedData.Word

/-!
# `SafeOps.TypedData`: structured messages and their hashes

A wallet signs a record of named members rather than bytes. The message travels as JSON
together with the types of its members and with a domain that says where the signature
counts.

What is signed is the hash of two marks, the hash of the domain and the hash of the message.
Both are hashes of records. The type of a domain has those members that the domain has.
-/

set_option autoImplicit false

namespace SafeOps

/-- What is signed for a message, given the hashes of its domain and of itself. -/
def signingHash (domain message : Hash) : Hash :=
  keccak256 ([0x19, 0x01] ++ domain.toBytes ++ message.toBytes)

/-- Where a signature counts. -/
structure TypedData.Domain where
  name : Option String := none
  version : Option String := none
  chainId : Option Word := none
  /-- The contract that checks the signature. -/
  verifyingContract : Option Address := none
  salt : Option Hash := none

/-- A message to be signed. -/
structure TypedData where
  types : TypedData.RecordTypes
  /-- The type of the message. -/
  primaryType : String
  domain : TypedData.Domain
  message : Json

namespace TypedData

/-- The members of a domain that are there, with their values. -/
def Domain.present (d : Domain) : List (Member × Word) :=
  (d.name.map fun s => (⟨"string", "name"⟩, (keccak256 (Bytes.ofText s)).bits)).toList
  ++ (d.version.map fun s => (⟨"string", "version"⟩, (keccak256 (Bytes.ofText s)).bits)).toList
  ++ (d.chainId.map fun x => (⟨"uint256", "chainId"⟩, x)).toList
  ++ (d.verifyingContract.map fun a => (⟨"address", "verifyingContract"⟩, a.toWord)).toList
  ++ (d.salt.map fun h => (⟨"bytes32", "salt"⟩, h.bits)).toList

/-- The name of the type of domains. -/
def domainTypeName : String := "EIP712Domain"

/-- The hash of a domain. -/
def Domain.hash (d : Domain) : Hash :=
  hashRecord (typeText domainTypeName (d.present.map Prod.fst)) (d.present.map Prod.snd)

/-- The hash of the message. -/
def messageHash (t : TypedData) : Except Fault Hash := do
  let type ← t.types.recordType t.primaryType
  return ⟨← word type t.message⟩

/-- What is signed. A message that is a domain is signed by its domain alone. -/
def signingHash (t : TypedData) : Except Fault Hash :=
  if t.primaryType = domainTypeName then
    .ok (keccak256 ([0x19, 0x01] ++ t.domain.hash.toBytes))
  else t.messageHash.map (SafeOps.signingHash t.domain.hash)

end TypedData

end SafeOps
