import SafeOps.Proofs.Input
import SafeOps.Proofs.SafeOperation.Binding
import SafeOps.Proofs.Signature.Layout
import SafeOps.Proofs.Timestamp
import SafeOps.Proofs.UserOperation.Paymaster

/-!
# `SafeOps.Proofs.SafeOperation.Resuming`: operations survive an indexing service

An indexing service keeps an operation in texts and pieces while its owners sign it. `Renders` says
which records stand for an operation: quantities in decimal, who pays cut after the address, bounds
of the span of time as timestamps, and one confirmation for each signature, in any order. The hash,
the times of writing and most of the user operation inside are not looked at, so they are free.

The context and the signatures are read back as they were (`Renders.toContext_eq`,
`Confirmation.Keeps.toSignature_eq`). The operation may get another shape: in the second generation
the paymaster comes out of its packed form, and data of a factory or a paymaster that is not there
is lost. But owners do not sign the shape. What they sign is the same again
(`Renders.exists_toUserOperation`), and so are the hashes (`resumes_run`).
-/

set_option autoImplicit false

namespace SafeOps

/-! ### Records of an operation -/

/-- Bytes as a record has them: where there are none there is nothing. -/
def shown (bs : Bytes) : Option Bytes :=
  if bs = [] then none else some bs

theorem getD_shown (bs : Bytes) : (shown bs).getD [] = bs := by
  unfold shown
  split
  · rename_i hnil
    exact hnil.symm
  · rfl

/-- A bound of a span of time as a record has it: a timestamp, or nothing if there is no bound. -/
def ShowsBound (bound : BitVec 64) : Option String → Prop
  | none => bound = 0
  | some text => bound ≠ 0 ∧ Timestamp.Denotes text bound.toNat

/-- The bounds of a span of time that are there have years of four digits. -/
def SigningContext.Datable (c : SigningContext) : Prop :=
  ∀ bound ∈ [c.validAfter, c.validUntil], bound ≠ 0 →
    (Timestamp.dateAfter (bound.toNat / 86400)).year ≤ 9999

/-- A confirmation keeps a signature, with the kind that tells who checks it. -/
structure Confirmation.Keeps (c : Confirmation) (s : OwnerSignature) : Prop where
  owner : c.owner = s.signer
  signature : c.signature = s.data
  signatureType : c.signatureType = if s.isContract then contractType else "EOA"

/-- A record stands for an operation. -/
structure SafeOperationRecord.Renders (r : SafeOperationRecord) (s : SafeOperation) : Prop where
  sender : ∃ inner, r.userOperation = some inner ∧ inner.sender = s.operation.sender
  nonce : r.nonce = Quantity.decimal s.operation.nonce
  initCode : r.initCode = shown s.operation.initCode
  callData : r.callData = s.operation.callData
  callGas : r.callGas = Quantity.decimal s.operation.gas.call
  verificationGas : r.verificationGas = Quantity.decimal s.operation.gas.verification
  preVerificationGas : r.preVerificationGas = Quantity.decimal s.operation.gas.preVerification
  maxFee : r.maxFee = Quantity.decimal s.operation.gas.maxFee
  maxPriorityFee : r.maxPriorityFee = Quantity.decimal s.operation.gas.maxPriorityFee
  paymaster : r.paymaster = (shown (s.operation.paymasterAndData.take 20)).map Address.ofBytes
  paymasterData : r.paymasterData = shown (s.operation.paymasterAndData.drop 20)
  entryPoint : r.entryPoint = s.context.entryPoint
  module : r.module = s.context.module
  validAfter : ShowsBound s.context.validAfter r.validAfter
  validUntil : ShowsBound s.context.validUntil r.validUntil
  /-- The confirmations may stand in any order. -/
  confirmations : ∃ order, order.Perm s.signatures.entries
    ∧ List.Forall₂ Confirmation.Keeps r.confirmations order

theorem exists_showsBound (bound : BitVec 64) : ∃ text, ShowsBound bound text := by
  by_cases hzero : bound = 0
  · exact ⟨none, hzero⟩
  · exact ⟨some _, hzero, "T", List.mem_cons_self, "", "Z", List.mem_cons_self, Or.inl rfl, rfl⟩

theorem exists_keeps (order : List OwnerSignature) :
    ∃ confirmations, List.Forall₂ Confirmation.Keeps confirmations order := by
  refine ⟨order.map fun s =>
    ⟨"", none, s.signer, s.data, if s.isContract then Confirmation.contractType else "EOA"⟩, ?_⟩
  exact List.forall₂_map_left_iff.mpr (List.forall₂_same.mpr fun s _ => ⟨rfl, rfl, rfl⟩)

/-- For every operation and every order of its signatures there is a record. -/
theorem exists_renders (s : SafeOperation) {order : List OwnerSignature}
    (h : order.Perm s.signatures.entries) :
    ∃ r : SafeOperationRecord, r.Renders s
      ∧ List.Forall₂ Confirmation.Keeps r.confirmations order := by
  obtain ⟨validAfter, hafter⟩ := exists_showsBound s.context.validAfter
  obtain ⟨validUntil, huntil⟩ := exists_showsBound s.context.validUntil
  obtain ⟨confirmations, hkeeps⟩ := exists_keeps order
  -- What is not looked at when the operation is taken up is left empty.
  let inner : UserOperationRecord := {
    transactionHash := none, sender := s.operation.sender, hash := "", nonce := "",
    initCode := none, callData := [], callGas := "", verificationGas := "",
    preVerificationGas := "", maxFee := "", maxPriorityFee := "", paymaster := none,
    paymasterData := none, signature := none, entryPoint := s.context.entryPoint }
  let r : SafeOperationRecord := {
    created := "", modified := none, hash := ""
    nonce := Quantity.decimal s.operation.nonce
    initCode := shown s.operation.initCode
    callData := s.operation.callData
    callGas := Quantity.decimal s.operation.gas.call
    verificationGas := Quantity.decimal s.operation.gas.verification
    preVerificationGas := Quantity.decimal s.operation.gas.preVerification
    maxFee := Quantity.decimal s.operation.gas.maxFee
    maxPriorityFee := Quantity.decimal s.operation.gas.maxPriorityFee
    paymaster := (shown (s.operation.paymasterAndData.take 20)).map Address.ofBytes
    paymasterData := shown (s.operation.paymasterAndData.drop 20)
    entryPoint := s.context.entryPoint
    validAfter, validUntil
    module := s.context.module
    confirmations
    preparedSignature := none
    userOperation := some inner }
  exact ⟨r, ⟨⟨inner, rfl, rfl⟩, rfl, rfl, rfl, rfl, rfl, rfl, rfl, rfl, rfl, rfl, rfl, rfl, hafter,
    huntil, order, h, hkeeps⟩, hkeeps⟩

/-! ### Reading the parts back -/

/-- A packed field that can be cut behind an address, unless it is empty. -/
def Cuttable (packed : Bytes) : Prop :=
  packed = [] ∨ 20 ≤ packed.length

/-- Code is split into a factory and its data without loss. -/
theorem initCode_splitInitCode {code : Bytes} (h : Cuttable code) (p : Paymaster) :
    Shape.initCode (.v07 (SafeOperationRecord.splitInitCode code).1
      (SafeOperationRecord.splitInitCode code).2 p) = code := by
  rcases h with rfl | hlong
  · rfl
  · rw [SafeOperationRecord.splitInitCode, if_neg (Nat.not_lt.mpr hlong)]
    exact Address.toBytes_take_append_drop hlong

theorem cuttable_initCode_v07 (factory : Option Address) (data : Option Bytes) (p : Paymaster) :
    Cuttable (Shape.initCode (.v07 factory data p)) := by
  cases factory with
  | none => exact Or.inl rfl
  | some factory =>
    right
    show 20 ≤ (factory.toBytes ++ data.getD []).length
    rw [List.length_append, Address.length_toBytes]
    exact Nat.le_add_right 20 _

theorem cuttable_pack (p : Paymaster) : Cuttable p.pack :=
  p.pack_eq_nil_or_le.imp_right fun hle => Nat.le_trans (by decide) hle

namespace SafeOperationRecord.Renders

variable {r : SafeOperationRecord} {s : SafeOperation}

/-- The address and the data of a paymaster are put together again. -/
theorem packedPaymaster_eq (h : r.Renders s) (hcut : Cuttable s.operation.paymasterAndData) :
    r.packedPaymaster = s.operation.paymasterAndData := by
  rw [packedPaymaster, h.paymaster, h.paymasterData]
  rcases hcut with hnil | hlong
  · rw [hnil]
    rfl
  · have hne : s.operation.paymasterAndData.take 20 ≠ [] := by
      refine List.ne_nil_of_length_pos ?_
      rw [List.length_take]
      omega
    rw [show shown (s.operation.paymasterAndData.take 20) = some _ from if_neg hne]
    show (Address.ofBytes (s.operation.paymasterAndData.take 20)).toBytes
      ++ (shown (s.operation.paymasterAndData.drop 20)).getD [] = _
    rw [getD_shown, Address.toBytes_take_append_drop hlong]

theorem gas_eq (h : r.Renders s) : r.gas = .ok s.operation.gas := by
  rw [gas, h.callGas, h.verificationGas, h.preVerificationGas, h.maxFee, h.maxPriorityFee]
  simp only [quantity, Input.quantity_decimal]
  rfl

/-- Code and paymaster are those of the operation, in whatever shape. -/
theorem restoredShape_views (h : r.Renders s) (hcut : Cuttable s.operation.paymasterAndData) :
    (r.restoredShape s.operation.generation).initCode = s.operation.initCode
      ∧ (r.restoredShape s.operation.generation).paymasterAndData
        = s.operation.paymasterAndData := by
  have hcode : r.initCode.getD [] = s.operation.initCode := by
    rw [h.initCode, getD_shown]
  have hpacked := h.packedPaymaster_eq hcut
  cases hshape : s.operation.shape with
  | v06 code packed =>
    have hgeneration : s.operation.generation = .v06 := congrArg Shape.generation hshape
    rw [hgeneration]
    exact ⟨hcode, hpacked⟩
  -- The fields may be others than before, but put into packed form they are the same.
  | v07 factory data paymaster =>
    have hgeneration : s.operation.generation = .v07 := congrArg Shape.generation hshape
    have hinitCode : s.operation.initCode = Shape.initCode (.v07 factory data paymaster) :=
      congrArg Shape.initCode hshape
    have hpaymaster : s.operation.paymasterAndData = paymaster.pack :=
      congrArg Shape.paymasterAndData hshape
    rw [hgeneration, restoredShape, hcode, hpacked, hpaymaster, hinitCode]
    exact ⟨initCode_splitInitCode (cuttable_initCode_v07 factory data paymaster) _,
      paymaster.pack_unpack_pack⟩

/-- The operation of a record may have another shape, but it fits and is the same to owners. -/
theorem exists_toUserOperation (h : r.Renders s) (hwell : s.WellFormed)
    (hcut : Cuttable s.operation.paymasterAndData) :
    ∃ op, r.toUserOperation s.operation.sender = .ok op ∧ op.Fits
      ∧ ∀ signatures, (⟨op.withSignature [], s.context, signatures⟩ : SafeOperation).signedFields
          = s.signedFields := by
  have hnonce : quantity "nonce" r.nonce = .ok s.operation.nonce := by
    rw [h.nonce, quantity, Input.quantity_decimal]
    rfl
  have hentry : EntryPoint.ofAddress r.entryPoint = .ok s.operation.generation := by
    rw [h.entryPoint]
    exact hwell.generation
  obtain ⟨hinitCode, hpaymaster⟩ := h.restoredShape_views hcut
  -- The gas fields have been checked before; those of the paymaster come out of 16 bytes each.
  have hfits : (⟨s.operation.sender, s.operation.nonce, r.callData, s.operation.gas,
      r.restoredShape s.operation.generation, []⟩ : UserOperation).Fits := by
    cases hgeneration : s.operation.generation with
    | v06 => exact UserOperation.fits_of_generation_v06 rfl
    | v07 =>
      have hgas := UserOperation.gas_lt_of_fits hwell.fits hgeneration
      exact (UserOperation.fits_iff rfl).mpr ⟨hgas, Paymaster.unpack_fits _⟩
  refine ⟨_, toUserOperation_eq_ok_iff.mpr
    ⟨_, _, _, hnonce, h.gas_eq, hentry, rfl, hfits⟩, hfits, fun signatures => ?_⟩
  simp only [SafeOperation.signedFields, UserOperation.withSignature,
    SafeOperation.SignedFields.mk.injEq, true_and, and_true]
  exact ⟨generation_restoredShape r _, hinitCode, h.callData, hpaymaster⟩

/-- A bound is read back if its year has four digits. -/
theorem seconds_of_showsBound {bound : BitVec 64} {text : Option String}
    (h : ShowsBound bound text)
    (hyear : bound ≠ 0 → (Timestamp.dateAfter (bound.toNat / 86400)).year ≤ 9999) :
    seconds text = .ok bound := by
  cases text with
  | none => exact congrArg Except.ok (Eq.symm h)
  | some text =>
    have hread := Timestamp.read_of_denotes h.2 (hyear h.1)
    have hsign : ¬ ((bound.toNat : Int) < 0) := Int.not_lt.mpr (Int.natCast_nonneg _)
    rw [seconds, hread]
    show (if (bound.toNat : Int) < 0 then Except.error _
      else .ok (BitVec.ofInt 64 bound.toNat)) = _
    rw [if_neg hsign, BitVec.ofInt_natCast, BitVec.ofNat_toNat, BitVec.setWidth_eq]

theorem toContext_eq (h : r.Renders s) (hdatable : s.context.Datable) :
    r.toContext s.context.chainId = .ok s.context := by
  have hafter := seconds_of_showsBound h.validAfter (hdatable _ List.mem_cons_self)
  have huntil := seconds_of_showsBound h.validUntil
    (hdatable _ (List.mem_cons_of_mem _ List.mem_cons_self))
  rw [toContext, hafter, huntil, h.module, h.entryPoint]
  rfl

end SafeOperationRecord.Renders

/-! ### Confirmations -/

/-- A signature that a constructor gave is the one its confirmation stands for. -/
theorem Confirmation.Keeps.toSignature_eq {c : Confirmation} {s : OwnerSignature}
    (h : c.Keeps s) (hbuilt : s.Built) : c.toSignature = s := by
  obtain ⟨signer, data, isContract⟩ := s
  have hkind : c.signatureType = if isContract then contractType else "EOA" := h.signatureType
  rw [toSignature, h.owner, h.signature, hkind]
  cases isContract with
  | true => rfl
  | false =>
    -- The size tells that the signature is one of a key.
    have hlength : data.length = slotSize := hbuilt.regular.length_eq rfl
    show OwnerSignature.ofBytes signer data = _
    rw [OwnerSignature.ofBytes, hlength]
    rfl

theorem map_toSignature {confirmations : List Confirmation} {order : List OwnerSignature}
    (h : List.Forall₂ Confirmation.Keeps confirmations order) (hbuilt : ∀ s ∈ order, s.Built) :
    confirmations.map Confirmation.toSignature = order := by
  induction h with
  | nil => rfl
  | cons hkeeps _ ih =>
    rw [List.map_cons, hkeeps.toSignature_eq (hbuilt _ List.mem_cons_self),
      ih fun s hs => hbuilt s (List.mem_cons_of_mem _ hs)]

namespace SafeOperation

/-! ### All operations -/

/-- A well-formed operation is taken up again from each record that stands for it. It has the same
context and the same signatures, and is the same to owners. -/
theorem exists_ofRecord {s : SafeOperation} (hwell : s.WellFormed)
    (hbuilt : ∀ x ∈ s.signatures.entries, x.Built) (hdatable : s.context.Datable)
    (hcut : Cuttable s.operation.paymasterAndData) {r : SafeOperationRecord} (h : r.Renders s) :
    ∃ again, ofRecord r s.context.chainId = .ok again ∧ again.context = s.context
      ∧ again.signatures = s.signatures ∧ again.signedFields = s.signedFields := by
  obtain ⟨op, hop, hfits, hfields⟩ := h.exists_toUserOperation hwell hcut
  obtain ⟨inner, hinner, hsender⟩ := h.sender
  obtain ⟨order, hperm, hkeeps⟩ := h.confirmations
  -- The signatures make no difference to what is signed, so they may be those of `s`.
  have hsame := hfields s.signatures
  have hgeneration : op.generation = s.operation.generation :=
    congrArg SignedFields.generation hsame
  have hbase : ofUserOperation op s.context = .ok ⟨op.withSignature [], s.context, .empty⟩ := by
    refine ofUserOperation_eq_ok_iff.mpr ⟨hwell.sound, ?_, hfits, rfl⟩
    rw [hgeneration]
    exact hwell.generation
  have hsignatures : SignatureSet.ofList (r.confirmations.map Confirmation.toSignature)
      = s.signatures := by
    rw [map_toSignature hkeeps fun x hx => hbuilt x (hperm.mem_iff.mp hx)]
    exact SignatureSet.ofList_of_perm hperm
  have hrecord : (Origin.record r s.context.chainId).base
      = .ok ⟨op.withSignature [], s.context, .empty⟩ := by
    rw [← hsender] at hop
    simp only [Origin.base, hinner, hop, h.toContext_eq hdatable, hbase, bind, Except.bind]
  refine ⟨⟨op.withSignature [], s.context, s.signatures⟩, ?_, rfl, rfl, hsame⟩
  show (Origin.record r s.context.chainId).make = _
  rw [Origin.make_eq_map_run, hrecord, Except.map, Origin.run_confirmations_record]
  exact congrArg (fun set => Except.ok (SafeOperation.mk _ s.context set)) hsignatures

/-- However an operation was made and changed, some record stands for it, with the confirmations in
any order. Let its signatures be such as the constructors give, the years of its bounds have four
digits, and a packed paymaster of the first generation be empty or have an address. Then it is
taken up again from every record that stands for it, with the same context, the same hashes and
the same encoded signatures. -/
theorem resumes_run {o : Origin} {s₀ : SafeOperation} (h : o.make = .ok s₀) (changes : List Change)
    (hbuilt : ∀ x ∈ (s₀.run changes).signatures.entries, x.Built)
    (hdatable : (s₀.run changes).context.Datable)
    (hcut : ∀ code packed, (s₀.run changes).operation.shape = .v06 code packed → Cuttable packed) :
    (∀ order, order.Perm (s₀.run changes).signatures.entries →
      ∃ r : SafeOperationRecord, r.Renders (s₀.run changes)
        ∧ List.Forall₂ Confirmation.Keeps r.confirmations order)
    ∧ ∀ r : SafeOperationRecord, r.Renders (s₀.run changes) →
      ∃ again, ofRecord r (s₀.run changes).context.chainId = .ok again
        ∧ again.context = (s₀.run changes).context
        ∧ again.hash = (s₀.run changes).hash
        ∧ again.entryPointHash = (s₀.run changes).entryPointHash
        ∧ again.signatures.encode = (s₀.run changes).signatures.encode := by
  have hwell : (s₀.run changes).WellFormed := wellFormed_run h changes
  have hcut' : Cuttable (s₀.run changes).operation.paymasterAndData := by
    rw [UserOperation.paymasterAndData]
    cases hshape : (s₀.run changes).operation.shape with
    | v06 code packed => exact hcut code packed hshape
    -- The packed form of fields has an address at its front if there is a paymaster at all.
    | v07 factory data paymaster => exact cuttable_pack paymaster
  refine ⟨fun order hperm => exists_renders _ hperm, fun r hrenders => ?_⟩
  obtain ⟨again, hagain, hcontext, hsignatures, hfields⟩ :=
    exists_ofRecord hwell hbuilt hdatable hcut' hrenders
  exact ⟨again, hagain, hcontext, hash_eq_of_signedFields hfields,
    entryPointHash_eq_of_signedFields hfields, congrArg SignatureSet.encode hsignatures⟩

/-- A draft with a deployment that got a paymaster and was signed by a contract and with a key. -/
theorem resumes_run_sample :
    ∃ (d : Draft) (c : SigningContext) (s₀ s : SafeOperation) (r : SafeOperationRecord)
        (again : SafeOperation),
      (Origin.draft d c).make = .ok s₀
      ∧ s = s₀.run [.estimate { paymasterAndData := some (List.replicate 60 0x01) },
          .sign (.ofContract ⟨3⟩ [0x02]), .sign (.ofBytes ⟨2⟩ (List.replicate 65 0x01))]
      ∧ List.Forall₂ Confirmation.Keeps r.confirmations s.signatures.entries.reverse
      ∧ ofRecord r 1 = .ok again ∧ again.hash = s.hash
      ∧ again.signatures.encode = s.signatures.encode := by
  let d : Draft := ⟨⟨1⟩, 3, [0x7b, 0xb3], some (⟨4⟩, [0x05]), .placeholder⟩
  let c : SigningContext := ⟨1, ⟨9⟩, EntryPoint.v07.address, 5, 8⟩
  let s₀ : SafeOperation := ⟨UserOperation.shaped .v07 d, c, .empty⟩
  let changes : List Change := [.estimate { paymasterAndData := some (List.replicate 60 0x01) },
    .sign (.ofContract ⟨3⟩ [0x02]), .sign (.ofBytes ⟨2⟩ (List.replicate 65 0x01))]
  have hdraft : (Origin.draft d c).make = .ok s₀ := rfl
  have hentries : (s₀.run changes).signatures.entries
      = [.ofBytes ⟨2⟩ (List.replicate 65 0x01), .ofContract ⟨3⟩ [0x02]] := rfl
  have hbuilt : ∀ x ∈ (s₀.run changes).signatures.entries, x.Built := by
    rw [hentries]
    exact List.forall_mem_cons.mpr
      ⟨.ofBytes _ _ (by decide), List.forall_mem_singleton.mpr (.ofContract _ _ (by decide))⟩
  have hdatable : (s₀.run changes).context.Datable :=
    List.forall_mem_cons.mpr
      ⟨fun _ => by decide, List.forall_mem_singleton.mpr fun _ => by decide⟩
  obtain ⟨hkept, hresumed⟩ := resumes_run hdraft changes hbuilt hdatable nofun
  obtain ⟨r, hrenders, hkeeps⟩ := hkept _ (List.reverse_perm _)
  obtain ⟨again, hagain, -, hhash, -, hencode⟩ := hresumed r hrenders
  exact ⟨d, c, _, _, r, again, hdraft, rfl, hkeeps, hagain, hhash, hencode⟩

end SafeOperation

end SafeOps
