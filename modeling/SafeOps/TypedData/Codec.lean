import SafeOps.Json.Reader
import SafeOps.TypedData

/-!
# `SafeOps.TypedData.Codec`: structured messages as JSON

A message is a record of its domain, its types, the type of the message and the message
itself. It may also be a text that holds such a record. The domain may be missing, and the
message too, which then is `null`. The types are an object, whose keys are identifiers; every
member has a type that can be read, whether or not there is such a type.

No field of a record may be repeated in a text.
-/

set_option autoImplicit false

namespace SafeOps.TypedData

/-! ## Writing -/

/-- Writes a member. -/
def Member.toJson (m : Member) : Json :=
  .obj [("name", .str m.name), ("type", .str m.type)]

/-- Writes a domain, without the members that are not there. -/
def Domain.toJson (d : Domain) : Json :=
  .obj <|
    Json.memberIfSome "name" .str d.name
    ++ Json.memberIfSome "version" .str d.version
    ++ Json.memberIfSome "chainId" Json.ofQuantity d.chainId
    ++ Json.memberIfSome "verifyingContract" Json.ofAddress d.verifyingContract
    ++ Json.memberIfSome "salt" Json.ofHash d.salt

/-- Writes a message. -/
def toJson (t : TypedData) : Json :=
  .obj [
    ("types", .obj (t.types.map fun (name, members) => (name, .arr (members.map Member.toJson)))),
    ("primaryType", .str t.primaryType),
    ("domain", t.domain.toJson),
    ("message", t.message)]

/-! ## Reading -/

/-- The members of a record whose fields have the given keys, none of them repeated. -/
def fieldsOf? (keys : List String) (j : Json) : Option (List (String × Json)) :=
  if keys.any fun key => 1 < j.countKey key then none else Json.toRecord keys j

/-- Reads a member. -/
def Member.ofJson? (j : Json) : Option Member := do
  let fields ← fieldsOf? ["type", "name"] j
  let type ← Json.required fields "type" Json.toText
  let name ← Json.required fields "name" Json.toText
  if TypeName.isType type then some ⟨type, name⟩ else none

/-- Reads a domain. -/
def Domain.ofJson? (j : Json) : Option Domain := do
  let fields ← fieldsOf? ["name", "version", "chainId", "verifyingContract", "salt"] j
  return {
    name := ← Json.optional fields "name" Json.toText
    version := ← Json.optional fields "version" Json.toText
    chainId := ← Json.optional fields "chainId" (Json.toQuantity 256)
    verifyingContract := ← Json.optional fields "verifyingContract" Json.toAddress
    salt := ← Json.optional fields "salt" Json.toHash }

/-- Puts a type among the types, unless there is one with its name. -/
def insertType (type : String × List Member) (types : RecordTypes) : RecordTypes :=
  if (types.lookup type.1).isSome then types else type :: types

/-- Reads record types. Of types with the same name the last one counts. -/
def RecordTypes.ofJson? : Json → Option RecordTypes
  | .obj members => do
    let types ← members.mapM fun (name, j) => do
      if TypeName.isRoot name then return (name, ← Json.toListOf Member.ofJson? j) else none
    return types.foldr insertType []
  | _ => none

/-- Reads a message that is a record. -/
def ofRecord? (j : Json) : Option TypedData := do
  let fields ← fieldsOf? ["domain", "types", "primaryType", "message"] j
  return {
    types := ← Json.required fields "types" RecordTypes.ofJson?
    primaryType := ← Json.required fields "primaryType" Json.toText
    domain := ← Json.withDefault fields "domain" {} Domain.ofJson?
    message := ← Json.withDefault fields "message" .null some }

/-- Reads a message. -/
def ofJson? : Json → Option TypedData
  | .str text => (Json.read text).bind ofRecord?
  -- A value that is no text any more has lost what was repeated in it.
  | j => ofRecord? j.sorted

end SafeOps.TypedData
