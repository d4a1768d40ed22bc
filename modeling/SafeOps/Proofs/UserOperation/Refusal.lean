import SafeOps.Proofs.Failable
import SafeOps.UserOperation.Text

/-!
# `SafeOps.Proofs.UserOperation.Refusal`: a typed operation is refused at its first bad field

A typed operation is read field by field. `fields` lists the texts that are read for a generation
in their order, each with the name that an error has for it and with the kind of value it should
show. Any number of them may be wrong at once. None of them is read before those in front of it are
known to be right, so it is the first wrong one that is reported, whatever follows it
(`failure?_parse`).

The texts for the other generation are not among the fields. They may hold anything. The main
statement is `refused_at_first`.
-/

set_option autoImplicit false

namespace SafeOps.UserOperationText

/-! ### Fields -/

/-- What the text of a field should show. -/
inductive Kind where
  | address
  | quantity
  | bytes
  deriving DecidableEq, Repr

/-- Why a text shows no value of a kind. -/
def Kind.fault? (kind : Kind) (text : String) : Option InputFault :=
  match kind with
  | .address => (failure? (Hex.read (some 20) (Text.trim text))).map .hex
  | .quantity => (failure? (Quantity.read 256 (Text.trim text))).map .quantity
  | .bytes => (failure? (Hex.read none (Text.trim text))).map .hex

/-- A field of a typed operation. -/
structure Field where
  /-- What the field is called in errors. -/
  name : String
  kind : Kind
  /-- What was typed, unless the field was left out. -/
  text? : Option String
  deriving DecidableEq, Repr

/-- Why a field is wrong. One that was left out is not. -/
def Field.fault? (f : Field) : Option InputFault :=
  f.text?.bind f.kind.fault?

/-- The error that a wrong field is reported with. -/
def Field.refusal? (f : Field) : Option InputError :=
  f.fault?.map (.invalid f.name)

/-- The fields that are read for both generations. -/
def commonFields (t : UserOperationText) : List Field :=
  [⟨"sender", .address, some t.sender⟩, ⟨"nonce", .quantity, some t.nonce⟩,
    ⟨"call_data", .bytes, some t.callData⟩, ⟨"call_gas_limit", .quantity, some t.callGas⟩,
    ⟨"verification_gas_limit", .quantity, some t.verificationGas⟩,
    ⟨"pre_verification_gas", .quantity, some t.preVerificationGas⟩,
    ⟨"max_fee_per_gas", .quantity, some t.maxFee⟩,
    ⟨"max_priority_fee_per_gas", .quantity, some t.maxPriorityFee⟩,
    ⟨"signature", .bytes, some t.signature⟩]

/-- The fields that are read for one generation only. -/
def ownFields (t : UserOperationText) : EntryPoint → List Field
  | .v06 =>
    [⟨"init_code", .bytes, t.initCode⟩, ⟨"paymaster_and_data", .bytes, t.paymasterAndData⟩]
  | .v07 =>
    [⟨"factory", .address, t.factory⟩, ⟨"factory_data", .bytes, t.factoryData⟩,
      ⟨"paymaster", .address, t.paymaster⟩,
      ⟨"paymaster_verification_gas_limit", .quantity, t.paymasterVerificationGas⟩,
      ⟨"paymaster_post_op_gas_limit", .quantity, t.paymasterPostOpGas⟩,
      ⟨"paymaster_data", .bytes, t.paymasterData⟩]

/-- The fields that are read for a generation, in the order in which they are read. -/
def fields (t : UserOperationText) (generation : EntryPoint) : List Field :=
  t.commonFields ++ t.ownFields generation

/-! ### Reading one field -/

theorem failure?_address (name text : String) :
    failure? (Input.address name text) = (Field.mk name .address (some text)).refusal? := by
  rw [Input.address, failure?_map, Input.hexBytes, failure?_mapError]
  simp only [Field.refusal?, Field.fault?, Option.bind_some, Kind.fault?, Option.map_map,
    Function.comp_def]

theorem failure?_quantity (name text : String) :
    failure? (Input.quantity 256 name text) = (Field.mk name .quantity (some text)).refusal? := by
  rw [Input.quantity, failure?_mapError]
  simp only [Field.refusal?, Field.fault?, Option.bind_some, Kind.fault?, Option.map_map,
    Function.comp_def]

theorem failure?_bytes (name text : String) :
    failure? (Input.bytes name text) = (Field.mk name .bytes (some text)).refusal? := by
  rw [Input.bytes, Input.hexBytes, failure?_mapError]
  simp only [Field.refusal?, Field.fault?, Option.bind_some, Kind.fault?, Option.map_map,
    Function.comp_def]

/-- A field that was left out is not read. -/
theorem failure?_optional {α : Type} {read : String → String → Except InputError α}
    {name : String} {kind : Kind}
    (hread : ∀ text, failure? (read name text) = (Field.mk name kind (some text)).refusal?)
    (text? : Option String) :
    failure? (optional read name text?) = (Field.mk name kind text?).refusal? := by
  cases text? with
  | none => rfl
  | some text =>
    rw [optional, failure?_map]
    exact hread text

/-! ### Reading all fields -/

/-- A field is read in front of others. -/
theorem failure?_bind_cons {α β : Type} {x : Except InputError α} {next : α → Except InputError β}
    {f : Field} {rest : List Field} (hx : failure? x = f.refusal?)
    (hnext : ∀ a, failure? (next a) = rest.findSome? Field.refusal?) :
    failure? (x >>= next) = (f :: rest).findSome? Field.refusal? := by
  rw [failure?_bind hnext, hx, List.findSome?_cons]
  cases f.refusal? <;> rfl

theorem failure?_parseShape (t : UserOperationText) (generation : EntryPoint) :
    failure? (t.parseShape generation) = (t.ownFields generation).findSome? Field.refusal? := by
  cases generation with
  | v06 =>
    refine failure?_bind_cons (failure?_optional (failure?_bytes _) _) fun _ => ?_
    refine failure?_bind_cons (failure?_optional (failure?_bytes _) _) fun _ => ?_
    rfl
  | v07 =>
    refine failure?_bind_cons (failure?_optional (failure?_address _) _) fun _ => ?_
    refine failure?_bind_cons (failure?_optional (failure?_bytes _) _) fun _ => ?_
    refine failure?_bind_cons (failure?_optional (failure?_address _) _) fun _ => ?_
    refine failure?_bind_cons (failure?_optional (failure?_quantity _) _) fun _ => ?_
    refine failure?_bind_cons (failure?_optional (failure?_quantity _) _) fun _ => ?_
    refine failure?_bind_cons (failure?_optional (failure?_bytes _) _) fun _ => ?_
    rfl

/-- A typed operation fails to be read with the error of the first wrong field. -/
theorem failure?_parse (t : UserOperationText) (generation : EntryPoint) :
    failure? (t.parse generation) = (t.fields generation).findSome? Field.refusal? := by
  refine failure?_bind_cons (failure?_address _ _) fun _ => ?_
  refine failure?_bind_cons (failure?_quantity _ _) fun _ => ?_
  refine failure?_bind_cons (failure?_bytes _ _) fun _ => ?_
  refine failure?_bind_cons (failure?_quantity _ _) fun _ => ?_
  refine failure?_bind_cons (failure?_quantity _ _) fun _ => ?_
  refine failure?_bind_cons (failure?_quantity _ _) fun _ => ?_
  refine failure?_bind_cons (failure?_quantity _ _) fun _ => ?_
  refine failure?_bind_cons (failure?_quantity _ _) fun _ => ?_
  refine failure?_bind_cons (failure?_bytes _ _) fun _ => ?_
  rw [failure?_bind_pure, failure?_parseShape]
  rfl

theorem refusal?_eq_none_iff {f : Field} : f.refusal? = none ↔ f.fault? = none :=
  Option.map_eq_none_iff

theorem refusal?_eq_some_iff {f : Field} {e : InputError} :
    f.refusal? = some e ↔ ∃ fault, f.fault? = some fault ∧ e = .invalid f.name fault := by
  rw [Field.refusal?, Option.map_eq_some_iff]
  simp only [eq_comm]

/-- A typed operation is refused exactly if one of the fields of its generation is wrong. The error
names the first such field and says what is wrong with it, whatever the fields behind it are. The
texts for the other generation make no difference. -/
theorem refused_at_first (t : UserOperationText) (generation : EntryPoint) :
    ((∃ e, t.parse generation = .error e) ↔ ∃ f ∈ t.fields generation, f.fault? ≠ none)
      ∧ (∀ e, t.parse generation = .error e ↔
          ∃ before f after fault, t.fields generation = before ++ f :: after
            ∧ (∀ g ∈ before, g.fault? = none) ∧ f.fault? = some fault
            ∧ e = .invalid f.name fault)
      ∧ (∀ factory factoryData paymaster paymasterVerificationGas paymasterPostOpGas paymasterData,
          UserOperationText.parse
            { t with factory, factoryData, paymaster, paymasterVerificationGas, paymasterPostOpGas,
                     paymasterData } .v06
            = t.parse .v06)
      ∧ ∀ initCode paymasterAndData,
          UserOperationText.parse { t with initCode, paymasterAndData } .v07 = t.parse .v07 := by
  have herror : ∀ e, t.parse generation = .error e
      ↔ (t.fields generation).findSome? Field.refusal? = some e := fun e => by
    rw [← failure?_parse, failure?_eq_some_iff]
  refine ⟨?_, fun e => ?_, fun _ _ _ _ _ _ => rfl, fun _ _ => rfl⟩
  · simp only [herror, ← Option.isSome_iff_exists, List.isSome_findSome?, List.any_eq_true,
      Option.isSome_iff_ne_none, ne_eq, refusal?_eq_none_iff]
  · rw [herror, List.findSome?_eq_some_iff]
    constructor
    · rintro ⟨before, f, after, hfields, hrefusal, hbefore⟩
      obtain ⟨fault, hfault, rfl⟩ := refusal?_eq_some_iff.mp hrefusal
      exact ⟨before, f, after, fault, hfields,
        fun g hg => refusal?_eq_none_iff.mp (hbefore g hg), hfault, rfl⟩
    · rintro ⟨before, f, after, fault, hfields, hbefore, hfault, rfl⟩
      exact ⟨before, f, after, hfields, refusal?_eq_some_iff.mpr ⟨fault, hfault, rfl⟩,
        fun g hg => refusal?_eq_none_iff.mpr (hbefore g hg)⟩

-- The nonce and the paymaster are both wrong, and an operation of v0.6 has no paymaster.
example : UserOperationText.parse
    ⟨"0x0000000000000000000000000000000000000001", "0xg", "0x1", "1", "1", "1", "1", "1", "",
      none, none, some "nobody", none, none, none, none, none⟩ .v06
    = .error (.invalid "nonce" (.quantity (.badDigit 103))) := rfl

end SafeOps.UserOperationText
