import SafeOps.Crypto.Secp256k1

/-!
# `SafeOps.Signature`: owner signatures and their layout

An owner signs with a key, which gives 65 bytes, or is a contract, whose signature has
any size and is checked by the contract. A `SignatureSet` holds at most one signature
per owner, in ascending order of the owners, as the account wants to read them.

`SignatureSet.encode` writes one slot of 65 bytes per owner. The slot of a contract
names the contract and the offset of its entry, and the entries, each a size and the
data, follow the slots.

* `SignatureSet.get_add`: the signature added last is the one found.
-/

set_option autoImplicit false

namespace SafeOps

/-- The size of a slot. -/
def slotSize : Nat := 65

/-- The signature of an owner. -/
structure OwnerSignature where
  /-- The owner it is attributed to. -/
  signer : Address
  data : Bytes
  /-- Whether the owner is a contract that checks `data` itself. -/
  isContract : Bool
  deriving DecidableEq, Repr

namespace OwnerSignature

/-- The signature of a key. -/
def ofKey (signer : Address) (signature : Secp256k1.Signature) : OwnerSignature :=
  ⟨signer, signature.toBytes, false⟩

/-- The signature of a contract. -/
def ofContract (signer : Address) (data : Bytes) : OwnerSignature :=
  ⟨signer, data, true⟩

/-- A signature of unknown kind. Data of another size than a slot's can only be meant
for a contract. -/
def ofBytes (signer : Address) (data : Bytes) : OwnerSignature :=
  ⟨signer, data, data.length ≠ slotSize⟩

/-- What stands in the slot of a signature whose entry starts at `offset`. -/
def slot (offset : Nat) (s : OwnerSignature) : Bytes :=
  if s.isContract then Bytes.zeros 12 ++ s.signer.toBytes ++ Bytes.ofNat 32 offset ++ [0]
  else s.data

/-- What follows the slots for a signature. -/
def entry (s : OwnerSignature) : Bytes :=
  if s.isContract then Bytes.ofNat 32 s.data.length ++ s.data else []

end OwnerSignature

/-- Whether the owners of signatures ascend strictly. -/
def Ascending (entries : List OwnerSignature) : Prop :=
  entries.Pairwise fun a b => a.signer.bits < b.signer.bits

/-- Puts a signature where it belongs, in place of one of the same owner. -/
def insertSignature (s : OwnerSignature) : List OwnerSignature → List OwnerSignature
  | [] => [s]
  | t :: ts =>
    if s.signer.bits < t.signer.bits then s :: t :: ts
    else if s.signer = t.signer then s :: ts
    else t :: insertSignature s ts

theorem mem_insertSignature {s u : OwnerSignature} {ts : List OwnerSignature}
    (h : u ∈ insertSignature s ts) : u = s ∨ u ∈ ts := by
  induction ts with
  | nil => simpa [insertSignature] using h
  | cons t ts ih =>
    unfold insertSignature at h
    split at h
    · simpa using h
    · split at h
      · rcases List.mem_cons.mp h with h | h
        · exact Or.inl h
        · exact Or.inr (List.mem_cons_of_mem t h)
      · rcases List.mem_cons.mp h with h | h
        · exact Or.inr (h ▸ List.mem_cons_self)
        · exact (ih h).imp id (List.mem_cons_of_mem t)

theorem ascending_insertSignature {s : OwnerSignature} {ts : List OwnerSignature}
    (h : Ascending ts) : Ascending (insertSignature s ts) := by
  induction ts with
  | nil => simp [insertSignature, Ascending]
  | cons t ts ih =>
    obtain ⟨hfirst, hrest⟩ := List.pairwise_cons.mp h
    unfold insertSignature
    split
    · rename_i hlt
      -- The signature comes first: its owner is below the first one, hence below all.
      refine List.pairwise_cons.mpr ⟨fun u hu => ?_, h⟩
      rcases List.mem_cons.mp hu with rfl | hu
      · exact hlt
      · exact BitVec.lt_trans hlt (hfirst u hu)
    · split
      · rename_i heq
        exact List.pairwise_cons.mpr ⟨fun u hu => heq ▸ hfirst u hu, hrest⟩
      · rename_i hnlt hne
        refine List.pairwise_cons.mpr ⟨fun u hu => ?_, ih hrest⟩
        -- What follows `t` now is the new signature or one that followed it before.
        rcases mem_insertSignature hu with rfl | hu
        · have hbits : t.signer.bits ≠ u.signer.bits := fun hb =>
            hne (congrArg Address.mk hb.symm)
          rw [BitVec.lt_def] at hnlt ⊢
          have hnat : t.signer.bits.toNat ≠ u.signer.bits.toNat := fun hn =>
            hbits (BitVec.eq_of_toNat_eq hn)
          omega
        · exact hfirst u hu

/-- Signatures of different owners, in ascending order of the owners. -/
structure SignatureSet where
  entries : List OwnerSignature
  ascending : Ascending entries

namespace SignatureSet

/-- No signature. -/
def empty : SignatureSet := ⟨[], List.Pairwise.nil⟩

/-- Adds a signature, in place of one of the same owner. -/
def add (set : SignatureSet) (s : OwnerSignature) : SignatureSet :=
  ⟨insertSignature s set.entries, ascending_insertSignature set.ascending⟩

/-- The signature of an owner. -/
def get? (set : SignatureSet) (signer : Address) : Option OwnerSignature :=
  set.entries.find? fun s => s.signer = signer

/-- The number of owners that signed. -/
def size (set : SignatureSet) : Nat :=
  set.entries.length

/-- Whether nobody signed. -/
def isEmpty (set : SignatureSet) : Bool :=
  set.entries.isEmpty

/-- The slots of signatures whose entries start at `offset`. -/
def slots (offset : Nat) : List OwnerSignature → Bytes
  | [] => []
  | s :: ss => s.slot offset ++ slots (offset + s.entry.length) ss

/-- The layout the account reads: slots first, then entries. Offsets count from the
start of the slots. -/
def encode (set : SignatureSet) : Bytes :=
  slots (slotSize * set.size) set.entries ++ set.entries.flatMap OwnerSignature.entry

/-- The signatures added one after another. -/
def ofList (signatures : List OwnerSignature) : SignatureSet :=
  signatures.foldl add empty

theorem get_add (set : SignatureSet) (s : OwnerSignature) :
    (set.add s).get? s.signer = some s := by
  simp only [get?, add]
  induction set.entries with
  | nil => simp [insertSignature]
  | cons t ts ih =>
    unfold insertSignature
    split
    · simp
    · split
      · simp
      · rename_i hne
        have hne' : ¬ t.signer = s.signer := fun h => hne h.symm
        simpa [List.find?_cons, hne'] using ih

end SignatureSet

end SafeOps
