import SafeOps.Proofs.Json.Codec
import SafeOps.Proofs.Json.Members
import SafeOps.Proofs.Json.Text
import SafeOps.UserOperation.Codec

/-!
# `SafeOps.Proofs.UserOperation.Codec`: operations survive being written as JSON

An operation is written as an object whose members depend on its generation, and members that
have no value are left out. The keys that are written stand in the list of keys of the
generation, in this order (`sublist_keys`), so no key is repeated and every member is found by
its key, in whatever order the members come (`required_of_mem`, `optional_of_memberIfSome`).

`ofJson?_of_perm` is the round trip. The generations overlap in most of their keys. An operation
of the second is not taken for one of the first, although the first is tried first, because
`initCode` is never among its keys.

All keys and values are plain texts, so that the object is also what the text of it is read as
(`read_render_toJson`).
-/

set_option autoImplicit false

namespace SafeOps

/-! ### Members -/

namespace Json

variable {α : Type} {members : List (String × Json)} {key : String}

theorem keys_memberIfSome_sublist (key : String) (write : α → Json) (value : Option α) :
    ((memberIfSome key write value).map Prod.fst).Sublist [key] := by
  cases value with
  | none => exact List.nil_sublist [key]
  | some x => exact List.Sublist.refl [key]

theorem mem_keys_memberIfSome {write : α → Json} {value : Option α} {k : String} :
    k ∈ (memberIfSome key write value).map Prod.fst ↔ k = key ∧ value ≠ none := by
  cases value with
  | none => simp [memberIfSome]
  | some x => simp [memberIfSome]

theorem plain_of_mem_memberIfSome {write : α → Json} {value : Option α} {m : String × Json}
    (hwrite : ∀ x, ∃ s, write x = .str s ∧ Plain s) (hm : m ∈ memberIfSome key write value) :
    ∃ s, m.2 = .str s ∧ Plain s := by
  cases value with
  | none => exact absurd hm List.not_mem_nil
  | some x =>
    rw [List.mem_singleton.mp hm]
    exact hwrite x

/-- A member that is there is read. -/
theorem required_of_mem {read : Json → Option α} {j : Json} {x : α}
    (hkeys : (members.map Prod.fst).Nodup) (hmem : (key, j) ∈ members) (hread : read j = some x) :
    required members key read = some x := by
  rw [required, lookup_of_mem hkeys hmem]
  exact hread

theorem required_of_not_mem {read : Json → Option α} (h : key ∉ members.map Prod.fst) :
    required members key read = none := by
  rw [required, lookup_of_not_mem h]
  rfl

/-- A value that may be missing is read, if its member is there exactly if there is a value. -/
theorem optional_of_memberIfSome {read : Json → Option α} {write : α → Json} {value : Option α}
    (hkeys : (members.map Prod.fst).Nodup) (hsub : memberIfSome key write value ⊆ members)
    (habsent : value = none → key ∉ members.map Prod.fst)
    (hread : ∀ x, toOptionOf read (write x) = some (some x)) :
    optional members key read = some value := by
  cases value with
  | none =>
    rw [optional, lookup_of_not_mem (habsent rfl)]
  | some x =>
    rw [optional, lookup_of_mem hkeys (hsub List.mem_cons_self)]
    exact hread x

/-- Where keys differ, the order of the members does not matter. -/
theorem lookup_eq_of_perm {members' : List (String × Json)}
    (hkeys : (members.map Prod.fst).Nodup) (h : members.Perm members') :
    lookup key members = lookup key members' := by
  have hkeys' : (members'.map Prod.fst).Nodup := (h.map Prod.fst).nodup_iff.mp hkeys
  by_cases hmem : key ∈ members.map Prod.fst
  · obtain ⟨⟨k, v⟩, hm, rfl⟩ := List.mem_map.mp hmem
    rw [lookup_of_mem hkeys hm, lookup_of_mem hkeys' (h.mem_iff.mp hm)]
  · have hmem' : key ∉ members'.map Prod.fst :=
      fun hk => hmem ((h.map Prod.fst).mem_iff.mpr hk)
    rw [lookup_of_not_mem hmem, lookup_of_not_mem hmem']

theorem toOptionOf_ofQuantity (x : Word) :
    toOptionOf (toQuantity 256) (ofQuantity x) = some (some x) := by
  show (toQuantity 256 (ofQuantity x)).map some = some (some x)
  rw [toQuantity_ofQuantity x.isLt, BitVec.setWidth_eq]
  rfl

theorem toOptionOf_ofBytes (bs : Bytes) : toOptionOf toBytes (ofBytes bs) = some (some bs) := by
  show (toBytes (ofBytes bs)).map some = some (some bs)
  rw [toBytes_ofBytes]
  rfl

theorem toOptionOf_ofAddress (a : Address) :
    toOptionOf toAddress (ofAddress a) = some (some a) := by
  show (toAddress (ofAddress a)).map some = some (some a)
  rw [toAddress_ofAddress]
  rfl

end Json

namespace UserOperation

/-- What an operation is written as. -/
def members (op : UserOperation) : List (String × Json) :=
  [("sender", Json.ofAddress op.sender), ("nonce", Json.ofQuantity op.nonce)]
  ++ deploymentMembers op.shape
  ++ [("callData", Json.ofBytes op.callData),
      ("callGasLimit", Json.ofQuantity op.gas.call),
      ("verificationGasLimit", Json.ofQuantity op.gas.verification),
      ("preVerificationGas", Json.ofQuantity op.gas.preVerification),
      ("maxFeePerGas", Json.ofQuantity op.gas.maxFee),
      ("maxPriorityFeePerGas", Json.ofQuantity op.gas.maxPriorityFee)]
  ++ paymasterMembers op.shape
  ++ [("signature", Json.ofBytes op.signature)]

theorem toJson_eq (op : UserOperation) : op.toJson = .obj op.members :=
  rfl

/-- The keys of a generation. -/
def keysOf : EntryPoint → List String
  | .v06 => keysV06
  | .v07 => keysV07

theorem nodup_keysOf (generation : EntryPoint) : (keysOf generation).Nodup := by
  cases generation <;> decide

/-- What is written stands in the order of the keys of the generation. -/
theorem sublist_keys (op : UserOperation) :
    (op.members.map Prod.fst).Sublist (keysOf op.generation) := by
  obtain ⟨sender, nonce, callData, gas, shape, signature⟩ := op
  cases shape with
  | v06 code packed => exact List.Sublist.refl keysV06
  | v07 factory data paymaster =>
    -- Six keys may be missing, in two runs between keys that are always there.
    have hdeployment : ((deploymentMembers (.v07 factory data paymaster)).map Prod.fst).Sublist
        ["factory", "factoryData"] := by
      rw [deploymentMembers, List.map_append]
      exact (Json.keys_memberIfSome_sublist "factory" _ _).append
        (Json.keys_memberIfSome_sublist "factoryData" _ _)
    have hpaymaster : ((paymasterMembers (.v07 factory data paymaster)).map Prod.fst).Sublist
        ["paymaster", "paymasterVerificationGasLimit", "paymasterPostOpGasLimit",
          "paymasterData"] := by
      rw [paymasterMembers, List.map_append, List.map_append, List.map_append]
      exact (((Json.keys_memberIfSome_sublist "paymaster" _ _).append
        (Json.keys_memberIfSome_sublist "paymasterVerificationGasLimit" _ _)).append
        (Json.keys_memberIfSome_sublist "paymasterPostOpGasLimit" _ _)).append
        (Json.keys_memberIfSome_sublist "paymasterData" _ _)
    rw [members, List.map_append, List.map_append, List.map_append, List.map_append]
    exact ((((List.Sublist.refl ["sender", "nonce"]).append hdeployment).append
      (List.Sublist.refl _)).append hpaymaster).append (List.Sublist.refl ["signature"])

theorem nodup_members (op : UserOperation) : (op.members.map Prod.fst).Nodup :=
  op.sublist_keys.nodup (nodup_keysOf op.generation)

/-- The keys that an operation of the second generation is written with. -/
theorem mem_keys_members {op : UserOperation} {factory : Option Address} {data : Option Bytes}
    {paymaster : Paymaster} (hshape : op.shape = .v07 factory data paymaster) (key : String) :
    key ∈ op.members.map Prod.fst ↔
      key ∈ ["sender", "nonce"]
        ∨ (key = "factory" ∧ factory ≠ none) ∨ (key = "factoryData" ∧ data ≠ none)
        ∨ key ∈ ["callData", "callGasLimit", "verificationGasLimit", "preVerificationGas",
          "maxFeePerGas", "maxPriorityFeePerGas"]
        ∨ (key = "paymaster" ∧ paymaster.address ≠ none)
        ∨ (key = "paymasterVerificationGasLimit" ∧ paymaster.verificationGas ≠ none)
        ∨ (key = "paymasterPostOpGasLimit" ∧ paymaster.postOpGas ≠ none)
        ∨ (key = "paymasterData" ∧ paymaster.data ≠ none) ∨ key = "signature" := by
  simp only [members, hshape, deploymentMembers, paymasterMembers, List.map_append,
    List.mem_append, Json.mem_keys_memberIfSome, List.map_cons, List.map_nil, List.mem_cons,
    List.not_mem_nil, or_false, or_assoc]

/-! ### The round trip -/

section RoundTrip

variable {op : UserOperation}

/-- A member that an operation is written with is read back. -/
theorem required_members {α : Type} {key : String} {read : Json → Option α} {j : Json} {x : α}
    (hmem : (key, j) ∈ op.members) (hread : read j = some x) :
    Json.required op.members key read = some x :=
  Json.required_of_mem op.nodup_members hmem hread

theorem optional_members {α : Type} {key : String} {read : Json → Option α} {write : α → Json}
    {value : Option α} (hsub : Json.memberIfSome key write value ⊆ op.members)
    (habsent : value = none → key ∉ op.members.map Prod.fst)
    (hread : ∀ x, Json.toOptionOf read (write x) = some (some x)) :
    Json.optional op.members key read = some value :=
  Json.optional_of_memberIfSome op.nodup_members hsub habsent hread

/-- The fields that both generations have are read back. -/
theorem readWith_members : readWith op.members op.shape = some op := by
  have hquantity : ∀ {key : String} {x : Word}, (key, Json.ofQuantity x) ∈ op.members →
      Json.required op.members key (Json.toQuantity 256) = some x := by
    intro key x hmem
    refine required_members hmem ?_
    rw [Json.toQuantity_ofQuantity x.isLt, BitVec.setWidth_eq]
  have hsender : Json.required op.members "sender" Json.toAddress = some op.sender :=
    required_members (by simp [members]) (Json.toAddress_ofAddress op.sender)
  have hcallData : Json.required op.members "callData" Json.toBytes = some op.callData :=
    required_members (by simp [members]) (Json.toBytes_ofBytes op.callData)
  have hsignature : Json.required op.members "signature" Json.toBytes = some op.signature :=
    required_members (by simp [members]) (Json.toBytes_ofBytes op.signature)
  have hnonce := @hquantity "nonce" op.nonce (by simp [members])
  have hcall := @hquantity "callGasLimit" op.gas.call (by simp [members])
  have hverification := @hquantity "verificationGasLimit" op.gas.verification (by simp [members])
  have hpre := @hquantity "preVerificationGas" op.gas.preVerification (by simp [members])
  have hfee := @hquantity "maxFeePerGas" op.gas.maxFee (by simp [members])
  have htip := @hquantity "maxPriorityFeePerGas" op.gas.maxPriorityFee (by simp [members])
  simp only [readWith, hsender, hnonce, hcallData, hcall, hverification, hpre, hfee, htip,
    hsignature, Option.bind_eq_bind, Option.bind_some]
  rfl

theorem ofJsonV06?_members {code packed : Bytes} (hshape : op.shape = .v06 code packed) :
    ofJsonV06? (.obj op.members) = some op := by
  have hcode : Json.required op.members "initCode" Json.toBytes = some code :=
    required_members (by simp [members, hshape, deploymentMembers]) (Json.toBytes_ofBytes code)
  have hpacked : Json.required op.members "paymasterAndData" Json.toBytes = some packed :=
    required_members (by simp [members, hshape, paymasterMembers]) (Json.toBytes_ofBytes packed)
  simp only [ofJsonV06?, Json.toRecord, hcode, hpacked, Option.bind_eq_bind, Option.bind_some]
  rw [← hshape]
  exact readWith_members

/-- An operation of the second generation is none of the first. -/
theorem ofJsonV06?_members_eq_none (hgeneration : op.generation = .v07) :
    ofJsonV06? (.obj op.members) = none := by
  have habsent : "initCode" ∉ op.members.map Prod.fst := by
    intro hmem
    have hkey := op.sublist_keys.subset hmem
    rw [hgeneration] at hkey
    exact absurd hkey (by decide)
  simp only [ofJsonV06?, Json.toRecord, Json.required_of_not_mem habsent, Option.bind_eq_bind,
    Option.bind_some, Option.bind_none]

theorem ofJsonV07?_members {factory : Option Address} {data : Option Bytes}
    {paymaster : Paymaster} (hshape : op.shape = .v07 factory data paymaster) :
    ofJsonV07? (.obj op.members) = some op := by
  have hfactory : Json.optional op.members "factory" Json.toAddress = some factory :=
    optional_members (fun m hm => by simp [members, hshape, deploymentMembers, hm])
      (fun hnone => by simp [mem_keys_members hshape, hnone]) Json.toOptionOf_ofAddress
  have hdata : Json.optional op.members "factoryData" Json.toBytes = some data :=
    optional_members (fun m hm => by simp [members, hshape, deploymentMembers, hm])
      (fun hnone => by simp [mem_keys_members hshape, hnone]) Json.toOptionOf_ofBytes
  have haddress : Json.optional op.members "paymaster" Json.toAddress
      = some paymaster.address :=
    optional_members (fun m hm => by simp [members, hshape, paymasterMembers, hm])
      (fun hnone => by simp [mem_keys_members hshape, hnone]) Json.toOptionOf_ofAddress
  have hverification : Json.optional op.members "paymasterVerificationGasLimit"
      (Json.toQuantity 256) = some paymaster.verificationGas :=
    optional_members (fun m hm => by simp [members, hshape, paymasterMembers, hm])
      (fun hnone => by simp [mem_keys_members hshape, hnone]) Json.toOptionOf_ofQuantity
  have hpostOp : Json.optional op.members "paymasterPostOpGasLimit" (Json.toQuantity 256)
      = some paymaster.postOpGas :=
    optional_members (fun m hm => by simp [members, hshape, paymasterMembers, hm])
      (fun hnone => by simp [mem_keys_members hshape, hnone]) Json.toOptionOf_ofQuantity
  have hpaymasterData : Json.optional op.members "paymasterData" Json.toBytes
      = some paymaster.data :=
    optional_members (fun m hm => by simp [members, hshape, paymasterMembers, hm])
      (fun hnone => by simp [mem_keys_members hshape, hnone]) Json.toOptionOf_ofBytes
  simp only [ofJsonV07?, Json.toRecord, hfactory, hdata, haddress, hverification, hpostOp,
    hpaymasterData, Option.bind_eq_bind, Option.bind_some]
  rw [← hshape]
  exact readWith_members

/-- What is read depends on what is found by the keys only. -/
theorem ofJson?_congr {members members' : List (String × Json)}
    (h : ∀ key, Json.lookup key members = Json.lookup key members') :
    ofJson? (.obj members) = ofJson? (.obj members') := by
  have hrequired : ∀ {α : Type} (key : String) (read : Json → Option α),
      Json.required members key read = Json.required members' key read := by
    intro α key read
    rw [Json.required, Json.required, h]
  have hoptional : ∀ {α : Type} (key : String) (read : Json → Option α),
      Json.optional members key read = Json.optional members' key read := by
    intro α key read
    rw [Json.optional, Json.optional, h]
  have hreadWith : ∀ shape, readWith members shape = readWith members' shape := by
    intro shape
    simp only [readWith, hrequired]
  have hv06 : ofJsonV06? (.obj members) = ofJsonV06? (.obj members') := by
    simp only [ofJsonV06?, Json.toRecord, Option.bind_eq_bind, Option.bind_some, hrequired,
      hreadWith]
  have hv07 : ofJsonV07? (.obj members) = ofJsonV07? (.obj members') := by
    simp only [ofJsonV07?, Json.toRecord, Option.bind_eq_bind, Option.bind_some, hoptional,
      hreadWith]
  rw [ofJson?, ofJson?, hv06, hv07]

/-- An operation is read back from what it is written as, with its members in any order. -/
theorem ofJson?_of_perm {members : List (String × Json)} (h : members.Perm op.members) :
    ofJson? (.obj members) = some op := by
  have hkeys : (members.map Prod.fst).Nodup := (h.map Prod.fst).nodup_iff.mpr op.nodup_members
  rw [ofJson?_congr fun key => Json.lookup_eq_of_perm hkeys h, ofJson?]
  cases hshape : op.shape with
  | v06 code packed => rw [ofJsonV06?_members hshape]
  | v07 factory data paymaster =>
    have hgeneration : op.generation = .v07 := by
      rw [generation, hshape]
      rfl
    rw [ofJsonV06?_members_eq_none hgeneration]
    exact ofJsonV07?_members hshape

end RoundTrip

/-! ### As text -/

/-- Every value is written as a plain text. -/
theorem plain_value {op : UserOperation} {m : String × Json} (hm : m ∈ op.members) :
    ∃ s, m.2 = .str s ∧ Json.Plain s := by
  have hquantity : ∀ x : Word, ∃ s, Json.ofQuantity x = .str s ∧ Json.Plain s :=
    fun x => ⟨_, rfl, Json.plain_hex x⟩
  have hbytes : ∀ bs : Bytes, ∃ s, Json.ofBytes bs = .str s ∧ Json.Plain s :=
    fun bs => ⟨_, rfl, Json.plain_render bs⟩
  have haddress : ∀ a : Address, ∃ s, Json.ofAddress a = .str s ∧ Json.Plain s :=
    fun a => ⟨_, rfl, Json.plain_render a.toBytes⟩
  have hdeployment : m ∈ deploymentMembers op.shape → ∃ s, m.2 = .str s ∧ Json.Plain s := by
    cases op.shape with
    | v06 code packed =>
      intro h
      rw [List.mem_singleton.mp h]
      exact hbytes code
    | v07 factory data paymaster =>
      intro h
      rcases List.mem_append.mp h with h | h
      · exact Json.plain_of_mem_memberIfSome haddress h
      · exact Json.plain_of_mem_memberIfSome hbytes h
  have hpaymaster : m ∈ paymasterMembers op.shape → ∃ s, m.2 = .str s ∧ Json.Plain s := by
    cases op.shape with
    | v06 code packed =>
      intro h
      rw [List.mem_singleton.mp h]
      exact hbytes packed
    | v07 factory data paymaster =>
      intro h
      simp only [paymasterMembers, List.mem_append] at h
      rcases h with ((h | h) | h) | h
      · exact Json.plain_of_mem_memberIfSome haddress h
      · exact Json.plain_of_mem_memberIfSome hquantity h
      · exact Json.plain_of_mem_memberIfSome hquantity h
      · exact Json.plain_of_mem_memberIfSome hbytes h
  simp only [members, List.mem_append, List.mem_cons, List.not_mem_nil, or_false] at hm
  rcases hm with ((((rfl | rfl) | h) | (rfl | rfl | rfl | rfl | rfl | rfl)) | h) | rfl
  · exact haddress op.sender
  · exact hquantity op.nonce
  · exact hdeployment h
  · exact hbytes op.callData
  · exact hquantity op.gas.call
  · exact hquantity op.gas.verification
  · exact hquantity op.gas.preVerification
  · exact hquantity op.gas.maxFee
  · exact hquantity op.gas.maxPriorityFee
  · exact hpaymaster h
  · exact hbytes op.signature

theorem plainMembers_members (op : UserOperation) : Json.PlainMembers op.members := by
  intro m hm
  have hkeys : ∀ generation, ∀ key ∈ keysOf generation, Json.Plain key := by
    intro generation
    cases generation <;> decide
  exact ⟨hkeys _ _ (op.sublist_keys.subset (List.mem_map_of_mem hm)), plain_value hm⟩

/-- The text of an operation is read as the object it was rendered from. -/
theorem read_render_toJson (op : UserOperation) : Json.read op.toJson.render = some op.toJson := by
  rw [toJson_eq]
  exact Json.read_render (List.cons_ne_nil _ _) op.plainMembers_members

end UserOperation

end SafeOps
