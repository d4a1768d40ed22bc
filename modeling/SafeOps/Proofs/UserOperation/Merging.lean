import SafeOps.Proofs.UserOperation.Paymaster

/-!
# `SafeOps.Proofs.UserOperation.Merging`: what an estimation leaves in an operation

An estimation knows some fields and not others. `Merged` says of every field of an operation what
it is afterwards, without saying how it got there: gas fields are replaced one by one, the packed
field of the first generation is replaced as a whole, and the paymaster of the second is laid over
the parts of a packed form, if there is one to be used. It is exactly what `applied` gives
(`merged_iff`), and a second time changes nothing more (`applied_applied`).

The second generation checks the operation with its new fields. The old ones have been checked
before, so the check is one of the estimation: it finds the first of its own narrow fields that
does not fit (`checkFields_applied`).
-/

set_option autoImplicit false

namespace SafeOps

/-! ### Fields that have to fit -/

namespace Estimation

/-- A field that is known, with the name it is checked under. -/
def named (field : String) (x : Option Word) : List (String × Word) :=
  (x.map (field, ·)).toList

/-- The fields an estimation knows of those that have to fit 128 bits in the second generation, in
the order they are checked. -/
def narrowFields (e : Estimation) : List (String × Word) :=
  named "call_gas_limit" e.callGas ++ named "verification_gas_limit" e.verificationGas
    ++ named "max_fee_per_gas" e.maxFee ++ named "max_priority_fee_per_gas" e.maxPriorityFee
    ++ named "paymaster_verification_gas_limit" e.paymasterVerificationGas
    ++ named "paymaster_post_op_gas_limit" e.paymasterPostOpGas

end Estimation

namespace UserOperation

open Estimation (named)

/-- The first field that does not fit 128 bits. -/
def misfit? (fields : List (String × Word)) : Option (String × Word) :=
  fields.find? fun f => limit 128 ≤ f.2.toNat

/-- The error for a field that does not fit 128 bits. -/
def misfitError (f : String × Word) : InputError :=
  .invalid f.1 (.tooWide (Quantity.decimal f.2) 128)

/-- The check of fields refuses the first one that does not fit, if there is any. -/
theorem checkFields_eq (fields : List (String × Word)) :
    checkFields fields = (misfit? fields).elim (.ok ()) fun f => .error (misfitError f) := by
  induction fields with
  | nil => rfl
  | cons f rest ih =>
    obtain ⟨field, x⟩ := f
    by_cases hx : x.toNat < limit 128
    · have hskip : misfit? ((field, x) :: rest) = misfit? rest := by
        simp [misfit?, Nat.not_le.mpr hx]
      rw [hskip, ← ih, checkFields, Input.narrow, Input.narrowShownAs, if_pos hx]
    · have hfound : misfit? ((field, x) :: rest) = some (field, x) := by
        simp [misfit?, Nat.not_lt.mp hx]
      rw [hfound, checkFields, Input.narrow, Input.narrowShownAs, if_neg hx]
      rfl

theorem misfit?_append (fields others : List (String × Word)) :
    misfit? (fields ++ others) = (misfit? fields).or (misfit? others) :=
  List.find?_append

theorem misfit?_eq_none {fields : List (String × Word)}
    (h : ∀ f ∈ fields, f.2.toNat < limit 128) : misfit? fields = none := by
  refine List.find?_eq_none.mpr fun f hf => ?_
  simpa using h f hf

theorem exists_misfit?_iff {fields : List (String × Word)} :
    (∃ f, misfit? fields = some f) ↔ ∃ f ∈ fields, limit 128 ≤ f.2.toNat := by
  rw [← Option.isSome_iff_exists, misfit?, List.find?_isSome]
  simp only [decide_eq_true_eq]

/-- A field that was there before fits, so only the new one can be a misfit. -/
theorem misfit?_named_getD {field : String} {new : Option Word} {old : Word}
    (hold : old.toNat < limit 128) :
    misfit? [(field, new.getD old)] = misfit? (named field new) := by
  cases new with
  | some x => rfl
  | none => exact misfit?_eq_none (List.forall_mem_singleton.mpr hold)

theorem misfit?_named_or {field : String} {new old : Option Word}
    (hold : ∀ x ∈ old, x.toNat < limit 128) :
    misfit? (named field (new.or old)) = misfit? (named field new) := by
  cases new with
  | some x => rfl
  | none =>
    cases old with
    | none => rfl
    | some x => exact misfit?_eq_none (List.forall_mem_singleton.mpr (hold x rfl))

end UserOperation

/-! ### Who pays -/

/-- The packed field of the first generation after an estimation. -/
structure Shape.Repacked (e : Estimation) (packed packed' : Bytes) : Prop where
  /-- A packed field is taken as a whole. -/
  whole : ∀ whole, e.paymasterAndData = some whole → packed' = whole
  /-- An address and its data are put together. -/
  joined : ∀ address, e.paymasterAndData = none → e.paymaster = some address →
    packed' = address.toBytes ++ e.paymasterData.getD []
  kept : e.paymasterAndData = none → e.paymaster = none → packed' = packed

theorem Shape.repacked_iff {e : Estimation} {code packed packed' : Bytes} :
    Repacked e packed packed' ↔ Shape.v06 code packed' = (Shape.v06 code packed).merge e := by
  cases hwhole : e.paymasterAndData with
  | some whole =>
    simp only [merge, hwhole, Shape.v06.injEq, true_and]
    exact ⟨fun h => h.whole whole hwhole,
      fun h => ⟨by simp [hwhole, h], by simp [hwhole], by simp [hwhole]⟩⟩
  | none =>
    cases haddress : e.paymaster with
    | some address =>
      simp only [merge, hwhole, haddress, Shape.v06.injEq, true_and]
      exact ⟨fun h => h.joined address hwhole haddress,
        fun h => ⟨by simp [hwhole], by simp [haddress, h], by simp [haddress]⟩⟩
    | none =>
      simp only [merge, hwhole, haddress, Shape.v06.injEq, true_and]
      exact ⟨fun h => h.kept hwhole haddress,
        fun h => ⟨by simp [hwhole], by simp [haddress], fun _ _ => h⟩⟩

namespace Paymaster

/-- What the fields of an estimation are laid over in the second generation. It is the paymaster
there was, unless the estimation has a packed form and no address of its own. -/
structure LaidUnder (e : Estimation) (p base : Paymaster) : Prop where
  kept : e.paymaster ≠ none ∨ e.paymasterAndData = none → base = p
  /-- A packed form is split. -/
  split : ∀ packed, e.paymaster = none → e.paymasterAndData = some packed →
    headerSize ≤ packed.length → Splits packed base
  /-- One that is too short means no paymaster. -/
  dropped : ∀ packed, e.paymaster = none → e.paymasterAndData = some packed →
    packed.length < headerSize → base = {}

/-- A paymaster after an estimation: the fields of the estimation, laid over a base. -/
def Merged (e : Estimation) (p p' : Paymaster) : Prop :=
  ∃ base, LaidUnder e p base
    ∧ p' = ⟨e.paymaster.or base.address, e.paymasterVerificationGas.or base.verificationGas,
        e.paymasterPostOpGas.or base.postOpGas, e.paymasterData.or base.data⟩

/-- The base that the fields of an estimation are laid over. -/
def base (p : Paymaster) (e : Estimation) : Paymaster :=
  match e.paymaster, e.paymasterAndData with
  | none, some packed => unpack packed
  | _, _ => p

theorem merge_eq (p : Paymaster) (e : Estimation) :
    p.merge e = ⟨e.paymaster.or (p.base e).address,
      e.paymasterVerificationGas.or (p.base e).verificationGas,
      e.paymasterPostOpGas.or (p.base e).postOpGas, e.paymasterData.or (p.base e).data⟩ := rfl

theorem laidUnder_iff {e : Estimation} {p base : Paymaster} :
    LaidUnder e p base ↔ base = p.base e := by
  cases haddress : e.paymaster with
  | some address =>
    -- An address outweighs the packed form.
    have hkept : p.base e = p := by simp [Paymaster.base, haddress]
    rw [hkept]
    exact ⟨fun h => h.kept (Or.inl (by simp [haddress])),
      fun h => ⟨fun _ => h, by simp [haddress], by simp [haddress]⟩⟩
  | none =>
    cases hpacked : e.paymasterAndData with
    | none =>
      have hkept : p.base e = p := by simp [Paymaster.base, haddress, hpacked]
      rw [hkept]
      exact ⟨fun h => h.kept (Or.inr hpacked),
        fun h => ⟨fun _ => h, by simp [hpacked], by simp [hpacked]⟩⟩
    | some packed =>
      have hunpack : p.base e = unpack packed := by simp [Paymaster.base, haddress, hpacked]
      rw [hunpack]
      constructor
      · intro h
        rcases Nat.lt_or_ge packed.length headerSize with hshort | hlong
        · rw [h.dropped packed haddress hpacked hshort, unpack_of_lt hshort]
        · exact (splits_iff.mp (h.split packed haddress hpacked hlong)).2
      · rintro rfl
        refine ⟨by simp [haddress, hpacked], fun other _ hother hlong => ?_,
          fun other _ hother hshort => ?_⟩
        · obtain rfl : packed = other := Option.some.inj (hpacked.symm.trans hother)
          exact splits_iff.mpr ⟨hlong, rfl⟩
        · obtain rfl : packed = other := Option.some.inj (hpacked.symm.trans hother)
          exact unpack_of_lt hshort

theorem merged_iff {e : Estimation} {p p' : Paymaster} : Merged e p p' ↔ p' = p.merge e := by
  simp only [Merged, laidUnder_iff, exists_eq_left, merge_eq]

/-- Without a packed form the fields of an estimation are laid over the paymaster one by one. -/
theorem merge_of_split (p : Paymaster) {e : Estimation} (h : e.paymasterAndData = none) :
    p.merge e = ⟨e.paymaster.or p.address, e.paymasterVerificationGas.or p.verificationGas,
      e.paymasterPostOpGas.or p.postOpGas, e.paymasterData.or p.data⟩ := by
  have hbase : p.base e = p := (laidUnder_iff.mp ⟨fun _ => rfl, by simp [h], by simp [h]⟩).symm
  rw [merge_eq, hbase]

/-- The limits of a base fit if those of the paymaster there was do. -/
theorem base_fits {p : Paymaster}
    (h : (∀ gas ∈ p.verificationGas, gas.toNat < limit 128)
      ∧ ∀ gas ∈ p.postOpGas, gas.toNat < limit 128) (e : Estimation) :
    (∀ gas ∈ (p.base e).verificationGas, gas.toNat < limit 128)
      ∧ ∀ gas ∈ (p.base e).postOpGas, gas.toNat < limit 128 := by
  unfold Paymaster.base
  split
  · exact unpack_fits _
  · exact h

/-- Laid over once more the fields of an estimation change nothing. -/
theorem merge_merge (p : Paymaster) (e : Estimation) : (p.merge e).merge e = p.merge e := by
  -- The second time the base is what was left the first time, or the packed form once more.
  have hbase : (p.merge e).base e = p.merge e ∨ (p.merge e).base e = p.base e := by
    unfold Paymaster.base
    split
    · exact Or.inr rfl
    · exact Or.inl rfl
  rw [merge_eq (p.merge e)]
  rcases hbase with hbase | hbase
  · rw [hbase, merge_eq p]
    simp only [← Option.or_assoc, Option.or_self]
  · rw [hbase, merge_eq p]

end Paymaster

/-! ### All fields -/

namespace UserOperation

open Estimation (named)

/-- What every field of an operation is after an estimation. -/
structure Merged (e : Estimation) (op op' : UserOperation) : Prop where
  sender : op'.sender = op.sender
  nonce : op'.nonce = op.nonce
  callData : op'.callData = op.callData
  signature : op'.signature = op.signature
  callGas : op'.gas.call = e.callGas.getD op.gas.call
  verificationGas : op'.gas.verification = e.verificationGas.getD op.gas.verification
  preVerificationGas : op'.gas.preVerification = e.preVerificationGas.getD op.gas.preVerification
  maxFee : op'.gas.maxFee = e.maxFee.getD op.gas.maxFee
  maxPriorityFee : op'.gas.maxPriorityFee = e.maxPriorityFee.getD op.gas.maxPriorityFee
  v06 : ∀ code packed, op.shape = .v06 code packed →
    ∃ packed', op'.shape = .v06 code packed' ∧ Shape.Repacked e packed packed'
  v07 : ∀ factory data p, op.shape = .v07 factory data p →
    ∃ p', op'.shape = .v07 factory data p' ∧ Paymaster.Merged e p p'

/-- These are the fields that an estimation gives an operation, and no others. -/
theorem merged_iff {e : Estimation} {op op' : UserOperation} :
    Merged e op op' ↔ op' = op.applied e := by
  constructor
  · intro h
    have hgas : op'.gas = op.gas.merge e := by
      show Gas.mk op'.gas.call op'.gas.verification op'.gas.preVerification op'.gas.maxFee
        op'.gas.maxPriorityFee = _
      rw [h.callGas, h.verificationGas, h.preVerificationGas, h.maxFee, h.maxPriorityFee]
      rfl
    have hshape : op'.shape = op.shape.merge e := by
      cases hold : op.shape with
      | v06 code packed =>
        obtain ⟨packed', hnew, hrepacked⟩ := h.v06 code packed hold
        rw [hnew, Shape.repacked_iff.mp hrepacked]
      | v07 factory data p =>
        obtain ⟨p', hnew, hmerged⟩ := h.v07 factory data p hold
        rw [hnew, Paymaster.merged_iff.mp hmerged]
        rfl
    obtain ⟨sender, nonce, callData, gas, shape, signature⟩ := op'
    simp only [applied, UserOperation.mk.injEq]
    exact ⟨h.sender, h.nonce, h.callData, hgas, hshape, h.signature⟩
  · rintro rfl
    refine ⟨rfl, rfl, rfl, rfl, rfl, rfl, rfl, rfl, rfl, fun code packed hshape => ?_,
      fun factory data p hshape => ?_⟩
    · obtain ⟨packed', hmerge⟩ :
          ∃ packed', (Shape.v06 code packed).merge e = .v06 code packed' := ⟨_, rfl⟩
      exact ⟨packed', by rw [applied, hshape, hmerge], Shape.repacked_iff.mpr hmerge.symm⟩
    · exact ⟨p.merge e, by rw [applied, hshape]; rfl, Paymaster.merged_iff.mpr rfl⟩

/-- A second time an estimation changes nothing. -/
theorem applied_applied (op : UserOperation) (e : Estimation) :
    (op.applied e).applied e = op.applied e := by
  have hgas : (op.gas.merge e).merge e = op.gas.merge e := by
    simp only [Gas.merge, ← Option.getD_or, Option.or_self]
  have hshape : (op.shape.merge e).merge e = op.shape.merge e := by
    cases op.shape with
    | v06 code packed =>
      simp only [Shape.merge, Shape.v06.injEq, true_and]
      split <;> rfl
    | v07 factory data p => simp only [Shape.merge, Paymaster.merge_merge]
  simp only [applied, hgas, hshape]

/-- In the second generation the check of an operation that fitted before finds the first field of
the estimation that does not fit. -/
theorem checkFields_applied {op : UserOperation} (h : op.Fits) (hgeneration : op.generation = .v07)
    (e : Estimation) : checkFields (op.applied e).narrowFields = checkFields e.narrowFields := by
  cases hshape : op.shape with
  | v06 code packed => simp [generation, Shape.generation, hshape] at hgeneration
  | v07 factory data p =>
    obtain ⟨⟨hcall, hverification, hmaxFee, hmaxPriorityFee⟩, hpaymaster⟩ := (fits_iff hshape).mp h
    obtain ⟨hbaseVerification, hbasePostOp⟩ := p.base_fits hpaymaster e
    -- Every narrow field is the new one, or else one that is known to fit.
    have hfields : (op.applied e).narrowFields
        = [("call_gas_limit", e.callGas.getD op.gas.call)]
          ++ [("verification_gas_limit", e.verificationGas.getD op.gas.verification)]
          ++ [("max_fee_per_gas", e.maxFee.getD op.gas.maxFee)]
          ++ [("max_priority_fee_per_gas", e.maxPriorityFee.getD op.gas.maxPriorityFee)]
          ++ named "paymaster_verification_gas_limit"
            (e.paymasterVerificationGas.or (p.base e).verificationGas)
          ++ named "paymaster_post_op_gas_limit"
            (e.paymasterPostOpGas.or (p.base e).postOpGas) := by
      simp only [narrowFields, applied, hshape, Shape.merge]
      rfl
    have hmisfit : misfit? (op.applied e).narrowFields = misfit? e.narrowFields := by
      rw [hfields, Estimation.narrowFields]
      simp only [misfit?_append, misfit?_named_getD hcall, misfit?_named_getD hverification,
        misfit?_named_getD hmaxFee, misfit?_named_getD hmaxPriorityFee,
        misfit?_named_or hbaseVerification, misfit?_named_or hbasePostOp]
    rw [checkFields_eq, checkFields_eq, hmisfit]

end UserOperation

end SafeOps
