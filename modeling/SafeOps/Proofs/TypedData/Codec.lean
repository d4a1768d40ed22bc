import SafeOps.Proofs.Failable
import SafeOps.Proofs.Json.Codec
import SafeOps.Proofs.Json.Members
import SafeOps.TypedData.Codec

/-!
# `SafeOps.Proofs.TypedData.Codec`: reading a message that was written

A message that does not come from a text is read from its sorted JSON. Here are the parts of
such a reading: members, the list of a type's members, and the domain of a contract on a chain.
`ofRecord?_sorted` puts them together for the members that a message has, in sorted order.
-/

set_option autoImplicit false

namespace SafeOps.TypedData

/-- A member is read back if its type is one. -/
theorem Member.ofJson?_sorted_toJson {m : Member} (h : TypeName.isType m.type = true) :
    Member.ofJson? m.toJson.sorted = some m := by
  show (if TypeName.isType m.type then some m else none) = some m
  exact if_pos h

theorem toListOf_sorted_members {members : List Member}
    (h : ∀ m ∈ members, TypeName.isType m.type = true) :
    Json.toListOf Member.ofJson? (Json.arr (members.map Member.toJson)).sorted
      = some members := by
  rw [Json.sorted, Json.sortedItems_eq_map, Json.toListOf, List.map_map, List.mapM_map]
  have hread := mapM_eq_pure_map (m := Option) fun m hm =>
    Member.ofJson?_sorted_toJson (h m hm)
  rw [List.map_id'] at hread
  exact hread

theorem foldr_insertType {types : RecordTypes} (h : (types.map Prod.fst).Nodup) :
    types.foldr insertType [] = types := by
  induction types with
  | nil => rfl
  | cons t rest ih =>
    obtain ⟨hfirst, hrest⟩ := List.nodup_cons.mp h
    have hnone : rest.lookup t.1 = none := by
      refine List.lookup_eq_none_iff.mpr fun r hr => ?_
      have hne : t.1 ≠ r.1 := fun heq => hfirst (heq ▸ List.mem_map_of_mem hr)
      exact bne_iff_ne.mpr hne
    rw [List.foldr_cons, ih hrest, insertType, hnone]
    rfl

/-- Reads the members of a type under its name. -/
def readType (t : String × Json) : Option (String × List Member) :=
  if TypeName.isRoot t.1 then
    (Json.toListOf Member.ofJson? t.2).bind fun members => some (t.1, members)
  else none

/-- A type as it stands among the types of a sorted message. -/
def sortedType (t : String × List Member) : String × Json :=
  (t.1, (Json.arr (t.2.map Member.toJson)).sorted)

theorem readType_sortedType {t : String × List Member} (hroot : TypeName.isRoot t.1 = true)
    (hmembers : ∀ m ∈ t.2, TypeName.isType m.type = true) :
    readType (sortedType t) = some t := by
  show (if TypeName.isRoot t.1 then _ else none) = some t
  rw [if_pos hroot]
  show (Json.toListOf Member.ofJson? (Json.arr (t.2.map Member.toJson)).sorted).bind _ = some t
  rw [toListOf_sorted_members hmembers]
  rfl

/-- Types are read back if their names can be, and no name is there twice. -/
theorem RecordTypes.ofJson?_sorted_types {types : RecordTypes}
    (hnames : (types.map Prod.fst).Nodup) (hroots : ∀ t ∈ types, TypeName.isRoot t.1 = true)
    (hmembers : ∀ t ∈ types, ∀ m ∈ t.2, TypeName.isType m.type = true) :
    RecordTypes.ofJson? (.obj (types.map sortedType)) = some types := by
  have hread : (types.map sortedType).mapM readType = some types := by
    rw [List.mapM_map]
    have heach := mapM_eq_pure_map (m := Option) (f := readType ∘ sortedType) fun t ht =>
      readType_sortedType (hroots t ht) (hmembers t ht)
    rw [List.map_id'] at heach
    exact heach
  show ((types.map sortedType).mapM readType).bind
    (fun types => some (types.foldr insertType [])) = some types
  rw [hread]
  exact congrArg some (foldr_insertType hnames)

/-- The domain of a contract on a chain is read back. -/
theorem Domain.ofJson?_sorted_contract {chainId : BitVec 64} {contract : Address} :
    Domain.ofJson? (Json.obj [("chainId", Json.ofQuantity chainId),
        ("verifyingContract", Json.ofAddress contract)]).sorted
      = some { chainId := some (chainId.setWidth 256), verifyingContract := some contract } := by
  have hlt : chainId.toNat < limit 256 := Nat.lt_trans chainId.isLt (by decide)
  have hchain : Json.toQuantity 256 (Json.ofQuantity chainId) = some (chainId.setWidth 256) :=
    Json.toQuantity_ofQuantity hlt
  show (do
    let c ← (Json.toQuantity 256 (Json.ofQuantity chainId)).map some
    let a ← (Json.toAddress (Json.ofAddress contract)).map some
    some ({ chainId := c, verifyingContract := a } : Domain)) = _
  rw [hchain, Json.toAddress_ofAddress]
  rfl

/-- A message is read by its types and its domain; what is signed may be any value. -/
theorem ofRecord?_sorted {domain message types : Json} {primaryType : String}
    {types' : RecordTypes} {domain' : Domain} (htypes : RecordTypes.ofJson? types = some types')
    (hdomain : Domain.ofJson? domain = some domain') :
    ofRecord? (.obj [("domain", domain), ("message", message),
        ("primaryType", .str primaryType), ("types", types)])
      = some ⟨types', primaryType, domain', message⟩ := by
  show ((RecordTypes.ofJson? types).bind fun t => (Domain.ofJson? domain).bind fun d =>
    some (TypedData.mk t primaryType d message)) = _
  rw [htypes, hdomain]
  rfl

end SafeOps.TypedData
