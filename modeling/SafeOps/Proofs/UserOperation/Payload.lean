import SafeOps.Proofs.SigningContext
import SafeOps.Proofs.TypedData.Codec
import SafeOps.Proofs.TypedData.Member
import SafeOps.Proofs.TypedData.Scalar
import SafeOps.Proofs.UserOperation.Words

/-!
# `SafeOps.Proofs.UserOperation.Payload`: one record, hashed in two ways

The record that owners sign is hashed in two ways. `ownerHash` hashes words that were put
beside each other by hand, under hashes of types that were worked out before. A wallet reads
the `payload` and works all of it out: the members from the written type, the words from the
texts of the message, and the domain from the payload's own.

`entries` is the record with both sides of each member. What the two ways start from are parts
of the entries: the written type (`recordType_eq`), the message (`recordMessage_eq`) and, where
the narrow fields fit, the words (`recordWords_eq`). So the two ways meet in
`signingHash_message`.
-/

set_option autoImplicit false

namespace SafeOps.UserOperation

open TypedData (Member Entry Names Size typeText membersOf domainTypeName)

/-! ### Entries of the record -/

/-- The gas fields of the record, in the order of the generation. -/
def gasEntries (op : UserOperation) : List Entry :=
  match op.generation with
  | .v06 =>
    [.uint 256 "callGasLimit" op.gas.call, .uint 256 "verificationGasLimit" op.gas.verification,
     .uint 256 "preVerificationGas" op.gas.preVerification,
     .uint 256 "maxFeePerGas" op.gas.maxFee,
     .uint 256 "maxPriorityFeePerGas" op.gas.maxPriorityFee]
  | .v07 =>
    [.uint 128 "verificationGasLimit" op.gas.verification, .uint 128 "callGasLimit" op.gas.call,
     .uint 256 "preVerificationGas" op.gas.preVerification,
     .uint 128 "maxPriorityFeePerGas" op.gas.maxPriorityFee,
     .uint 128 "maxFeePerGas" op.gas.maxFee]

/-- The record that owners sign. -/
def entries (op : UserOperation) (c : SigningContext) : List Entry :=
  [.address "safe" op.sender, .uint 256 "nonce" op.nonce, .bytes "initCode" op.initCode,
   .bytes "callData" op.callData]
    ++ op.gasEntries
    ++ [.bytes "paymasterAndData" op.paymasterAndData, .uint 48 "validAfter" c.validAfter,
        .uint 48 "validUntil" c.validUntil, .address "entryPoint" c.entryPoint]

def recordMembers : EntryPoint → List Member
  | .v06 =>
    [⟨"address", "safe"⟩, ⟨"uint256", "nonce"⟩, ⟨"bytes", "initCode"⟩, ⟨"bytes", "callData"⟩,
     ⟨"uint256", "callGasLimit"⟩, ⟨"uint256", "verificationGasLimit"⟩,
     ⟨"uint256", "preVerificationGas"⟩, ⟨"uint256", "maxFeePerGas"⟩,
     ⟨"uint256", "maxPriorityFeePerGas"⟩, ⟨"bytes", "paymasterAndData"⟩,
     ⟨"uint48", "validAfter"⟩, ⟨"uint48", "validUntil"⟩, ⟨"address", "entryPoint"⟩]
  | .v07 =>
    [⟨"address", "safe"⟩, ⟨"uint256", "nonce"⟩, ⟨"bytes", "initCode"⟩, ⟨"bytes", "callData"⟩,
     ⟨"uint128", "verificationGasLimit"⟩, ⟨"uint128", "callGasLimit"⟩,
     ⟨"uint256", "preVerificationGas"⟩, ⟨"uint128", "maxPriorityFeePerGas"⟩,
     ⟨"uint128", "maxFeePerGas"⟩, ⟨"bytes", "paymasterAndData"⟩,
     ⟨"uint48", "validAfter"⟩, ⟨"uint48", "validUntil"⟩, ⟨"address", "entryPoint"⟩]

variable (op : UserOperation) (c : SigningContext)

theorem entries_member : (op.entries c).map Entry.member = recordMembers op.generation := by
  cases h : op.generation with
  | v06 =>
    rw [entries, gasEntries, h]
    rfl
  | v07 =>
    rw [entries, gasEntries, h]
    rfl

/-- The type that was written by hand is that of the members. -/
theorem recordType_eq (g : EntryPoint) : recordType g = typeText "SafeOp" (recordMembers g) := by
  cases g with
  | v06 => decide +kernel
  | v07 => decide +kernel

/-- The message has a value for each entry. -/
theorem recordMessage_eq : op.recordMessage c = .obj ((op.entries c).map Entry.value) := by
  cases h : op.generation with
  | v06 =>
    rw [recordMessage, recordGasMessage, entries, gasEntries, h]
    rfl
  | v07 =>
    rw [recordMessage, recordGasMessage, entries, gasEntries, h]
    rfl

/-! ### Members of the record -/

/-- What is needed of a member to be read, and to be no record. -/
structure Plain (m : Member) : Prop where
  clear : m.Clear
  isType : TypedData.TypeName.isType m.type = true
  free : m.type ≠ domainTypeName ∧ m.type ≠ "SafeOp"

theorem plain_recordMembers (g : EntryPoint) : ∀ m ∈ recordMembers g, Plain m := by
  have hclear : ∀ m ∈ recordMembers g,
      ' ' ∉ m.type.toList ∧ ',' ∉ m.type.toList ∧ ',' ∉ m.name.toList := by
    cases g <;> decide
  have htype : ∀ m ∈ recordMembers g, TypedData.TypeName.isType m.type = true := by
    cases g <;> decide
  have hfree : ∀ m ∈ recordMembers g, m.type ≠ domainTypeName ∧ m.type ≠ "SafeOp" := by
    cases g <;> decide
  intro m hm
  obtain ⟨hspace, hcomma, hname⟩ := hclear m hm
  exact ⟨⟨hspace, hcomma, hname⟩, htype m hm, hfree m hm⟩

theorem nodup_entries_name : ((op.entries c).map Entry.name).Nodup := by
  have hnames : (op.entries c).map Entry.name
      = (recordMembers op.generation).map Member.name := by
    rw [← op.entries_member c, List.map_map]
    rfl
  rw [hnames]
  cases op.generation <;> decide

/-! ### Words of the record -/

/-- The words of the record are those of its entries, if what is narrowed fits. -/
theorem recordWords_eq {op : UserOperation} {c : SigningContext} (hfits : op.Fits)
    (hsound : c.Sound) : op.recordWords c = (op.entries c).map Entry.word := by
  have hafter := narrowWord_of_lt hsound.validAfter_lt
  have huntil := narrowWord_of_lt hsound.validUntil_lt
  rw [recordWords, entries, hafter, huntil]
  have hgas : op.recordGasWords = op.gasEntries.map Entry.word := by
    cases hg : op.generation with
    | v06 => simp [recordGasWords, gasEntries, hg, Entry.uint]
    | v07 =>
      obtain ⟨hcall, hverification, hfee, hpriority⟩ := gas_lt_of_fits hfits hg
      simp only [recordGasWords, gasEntries, hg]
      rw [narrowWord_of_lt hcall, narrowWord_of_lt hverification,
        narrowWord_of_lt hfee, narrowWord_of_lt hpriority]
      simp [Entry.uint]
  rw [hgas]
  simp [Entry.uint, Entry.address, Entry.bytes]

/-- The entries are sound, if what is narrowed fits. -/
theorem sound_entries {op : UserOperation} {c : SigningContext} (hfits : op.Fits)
    (hsound : c.Sound) : ∀ e ∈ op.entries c, e.Sound := by
  have hgas : ∀ e ∈ op.gasEntries, e.Sound := by
    cases hg : op.generation with
    | v06 =>
      simp only [gasEntries, hg, List.forall_mem_cons]
      exact ⟨.uint _ .word (BitVec.isLt _), .uint _ .word (BitVec.isLt _),
        .uint _ .word (BitVec.isLt _), .uint _ .word (BitVec.isLt _),
        .uint _ .word (BitVec.isLt _), List.forall_mem_nil _⟩
    | v07 =>
      obtain ⟨hcall, hverification, hfee, hpriority⟩ := gas_lt_of_fits hfits hg
      simp only [gasEntries, hg, List.forall_mem_cons]
      exact ⟨.uint _ .gas hverification, .uint _ .gas hcall, .uint _ .word (BitVec.isLt _),
        .uint _ .gas hpriority, .uint _ .gas hfee, List.forall_mem_nil _⟩
  rw [entries, List.forall_mem_append, List.forall_mem_append]
  simp only [List.forall_mem_cons]
  exact ⟨⟨⟨.address _ _, .uint _ .word (BitVec.isLt _), .bytes _ _, .bytes _ _,
      List.forall_mem_nil _⟩, hgas⟩,
    .bytes _ _, .uint _ .time hsound.validAfter_lt, .uint _ .time hsound.validUntil_lt,
    .address _ _, List.forall_mem_nil _⟩

/-! ### The domain -/

/-- The module's domain as wallets read it. -/
def domain (c : SigningContext) : TypedData.Domain :=
  { chainId := some (c.chainId.setWidth 256), verifyingContract := some c.module }

/-- The hash that stands for the type of the module's domain is the hash of that type. -/
theorem domainTypeHash_eq :
    domainTypeHash = keccak256 (Bytes.ofText (typeText domainTypeName domainMembers)) := by
  decide +kernel

theorem hash_domain (c : SigningContext) : (domain c).hash = domainHash c := by
  have htype : typeText domainTypeName ((domain c).present.map Prod.fst)
      = typeText domainTypeName domainMembers := rfl
  have hwords : (domain c).present.map Prod.snd
      = [c.chainId.setWidth 256, c.module.toWord] := rfl
  rw [TypedData.Domain.hash, htype, hwords, domainHash, domainTypeHash_eq, hashRecord]

/-! ### The payload -/

def types (g : EntryPoint) : TypedData.RecordTypes :=
  [(domainTypeName, domainMembers), ("SafeOp", recordMembers g)]

/-- The payload as wallets read it. -/
def message : TypedData :=
  ⟨types op.generation, "SafeOp", domain c, (op.recordMessage c).sorted⟩

/-- The members are found again in the written type. -/
theorem membersOf_recordType (g : EntryPoint) : membersOf (recordType g) = recordMembers g := by
  rw [recordType_eq]
  exact TypedData.membersOf_typeText (by decide) fun m hm => (plain_recordMembers g m hm).clear

theorem ofJson?_types (g : EntryPoint) :
    TypedData.RecordTypes.ofJson? (.obj ((types g).map TypedData.sortedType))
      = some (types g) := by
  have hnames : ((types g).map Prod.fst).Nodup := by
    show [domainTypeName, "SafeOp"].Nodup
    decide
  refine TypedData.RecordTypes.ofJson?_sorted_types hnames ?_ ?_
  · simp only [types, List.forall_mem_cons]
    exact ⟨rfl, rfl, List.forall_mem_nil _⟩
  · simp only [types, List.forall_mem_cons]
    exact ⟨by decide, fun m hm => (plain_recordMembers g m hm).isType, List.forall_mem_nil _⟩

/-- Every payload can be read. -/
theorem ofJson?_payload : TypedData.ofJson? (op.payload c) = some (op.message c) := by
  have hpayload : op.payload c = .obj [
      ("types", .obj [
        (domainTypeName, .arr (domainMembers.map Member.toJson)),
        ("SafeOp", .arr ((recordMembers op.generation).map Member.toJson))]),
      ("primaryType", .str "SafeOp"),
      ("domain", .obj [
        ("chainId", Json.ofQuantity c.chainId),
        ("verifyingContract", Json.ofAddress c.module)]),
      ("message", op.recordMessage c)] := by
    rw [payload, membersOf_recordType]
  rw [hpayload]
  exact TypedData.ofRecord?_sorted (ofJson?_types op.generation)
    TypedData.Domain.ofJson?_sorted_contract

theorem names_record : Names "SafeOp" none :=
  ⟨rfl, rfl, rfl, rfl, rfl⟩

theorem lookup_types :
    (types op.generation).lookup "SafeOp" = some ((op.entries c).map Entry.member) := by
  rw [entries_member]
  rfl

/-- No member has a type that the payload defines, so all of them are scalars. -/
theorem free_entries : ∀ e ∈ op.entries c, (types op.generation).lookup e.type = none := by
  intro e he
  have hmember : e.member ∈ recordMembers op.generation := by
    rw [← op.entries_member c]
    exact List.mem_map_of_mem he
  obtain ⟨hdomain, hrecord⟩ := (plain_recordMembers _ _ hmember).free
  refine List.lookup_eq_none_iff.mpr ?_
  simp only [types, List.forall_mem_cons]
  exact ⟨bne_iff_ne.mpr hdomain, bne_iff_ne.mpr hrecord, List.forall_mem_nil _⟩

/-- What a wallet works out from the payload is what owners sign, if what is narrowed fits. -/
theorem signingHash_message {op : UserOperation} {c : SigningContext} (hfits : op.Fits)
    (hsound : c.Sound) : (op.message c).signingHash = .ok (op.ownerHash c) := by
  have hmembers := op.entries_member c
  have hmessage : (op.message c).messageHash = .ok (op.recordHash c) := by
    have hhash := TypedData.messageHash_of_entries (t := op.message c) names_record
      (op.lookup_types c) (op.free_entries c) (congrArg Json.sorted (op.recordMessage_eq c))
      (op.nodup_entries_name c) (sound_entries hfits hsound)
    rw [hhash, recordHash, recordType_eq, recordWords_eq hfits hsound, hmembers]
    rfl
  -- What is signed is a message and not a domain, so both hashes go in.
  have hprimary : ¬ (op.message c).primaryType = domainTypeName := by
    show ¬ "SafeOp" = domainTypeName
    decide
  rw [TypedData.signingHash, if_neg hprimary, hmessage]
  show Except.ok (signingHash (domain c).hash (op.recordHash c)) = _
  rw [hash_domain]
  rfl

end SafeOps.UserOperation
