import SafeOps.UserOperation

/-!
# `SafeOps.Proofs.UserOperation.Fits`: operations whose fields fit

An operation of the second generation is checked before it is taken: some of its fields have
to fit 128 bits. `Fits` says that they do, and `checked_eq_ok_iff` that the check finds out.
`merge_cases` is all that putting an estimation into an operation can do: the fields are
replaced and fit, or the operation stays as it is. `map_merge_eq_ok_iff` says the same of the
outcome alone.

`fits_iff` reads `Fits` out in the fields of the second generation.
-/

set_option autoImplicit false

namespace SafeOps.UserOperation

/-- The check of fields succeeds exactly if each of them fits 128 bits. -/
theorem checkFields_eq_ok_iff {fields : List (String × Word)} :
    checkFields fields = .ok () ↔ ∀ f ∈ fields, f.2.toNat < limit 128 := by
  induction fields with
  | nil => simp [checkFields]
  | cons f rest ih =>
    obtain ⟨name, x⟩ := f
    by_cases hx : x.toNat < limit 128
    · simp [checkFields, Input.narrow, Input.narrowShownAs, hx, ih]
    · simp [checkFields, Input.narrow, Input.narrowShownAs, hx]

/-- All fields that have to fit 128 bits do. -/
def Fits (op : UserOperation) : Prop :=
  ∀ f ∈ op.narrowFields, f.2.toNat < limit 128

theorem checked_eq_ok_iff {op op' : UserOperation} :
    op.checked = .ok op' ↔ op.Fits ∧ op = op' := by
  unfold checked Fits
  rw [← checkFields_eq_ok_iff]
  cases h : checkFields op.narrowFields with
  | ok u => simp [Except.map]
  | error e => simp [Except.map]

theorem fits_withSignature {op : UserOperation} {signature : Bytes} :
    (op.withSignature signature).Fits ↔ op.Fits :=
  Iff.rfl

/-- An operation of the first generation has no field that has to fit. -/
theorem fits_of_generation_v06 {op : UserOperation} (h : op.generation = .v06) : op.Fits := by
  intro f hf
  cases hs : op.shape with
  | v06 code packed => simp [narrowFields, hs] at hf
  | v07 factory data paymaster => simp [generation, Shape.generation, hs] at h

/-- What fits in the second generation: the gas fields but one, and the gas of a paymaster
where there is some. -/
theorem fits_iff {op : UserOperation} {factory : Option Address} {data : Option Bytes}
    {p : Paymaster} (h : op.shape = .v07 factory data p) :
    op.Fits ↔
      (op.gas.call.toNat < limit 128 ∧ op.gas.verification.toNat < limit 128
        ∧ op.gas.maxFee.toNat < limit 128 ∧ op.gas.maxPriorityFee.toNat < limit 128)
      ∧ (∀ gas ∈ p.verificationGas, gas.toNat < limit 128)
      ∧ (∀ gas ∈ p.postOpGas, gas.toNat < limit 128) := by
  cases hv : p.verificationGas <;> cases hp : p.postOpGas <;>
    simp [Fits, narrowFields, h, hv, hp, and_assoc]

/-- The gas fields that have to fit, where the generation has such fields. -/
theorem gas_lt_of_fits {op : UserOperation} (h : op.Fits) (hg : op.generation = .v07) :
    op.gas.call.toNat < limit 128 ∧ op.gas.verification.toNat < limit 128
      ∧ op.gas.maxFee.toNat < limit 128 ∧ op.gas.maxPriorityFee.toNat < limit 128 := by
  cases hs : op.shape with
  | v06 code packed => simp [generation, Shape.generation, hs] at hg
  | v07 factory data paymaster => exact ((fits_iff hs).mp h).1

/-! ### Drafts -/

@[simp] theorem generation_shaped (g : EntryPoint) (d : Draft) :
    (shaped g d).generation = g := by
  cases g <;> rcases h : d.deployment with _ | ⟨factory, data⟩ <;>
    simp [generation, shaped, Shape.ofDeployment, Shape.generation, h]

/-! ### Estimations -/

@[simp] theorem generation_applied (op : UserOperation) (e : Estimation) :
    (op.applied e).generation = op.generation := by
  cases h : op.shape <;> simp [generation, applied, Shape.merge, Shape.generation, h]

@[simp] theorem initCode_applied (op : UserOperation) (e : Estimation) :
    (op.applied e).initCode = op.initCode := by
  cases h : op.shape with
  | v06 code packed => simp [initCode, applied, Shape.merge, Shape.initCode, h]
  | v07 factory data paymaster =>
    cases factory <;> simp [initCode, applied, Shape.merge, Shape.initCode, h]

/-- An estimation that knows nothing replaces nothing. -/
@[simp] theorem applied_empty (op : UserOperation) : op.applied .empty = op := by
  obtain ⟨sender, nonce, callData, gas, shape, signature⟩ := op
  cases shape <;> rfl

/-- Merging an estimation either gives the operation with its fields replaced, which fit,
or leaves the operation as it is. The latter only happens in the second generation. -/
theorem merge_cases (op : UserOperation) (e : Estimation) :
    (op.merge e = (.ok (), op.applied e) ∧ (op.applied e).Fits) ∨
      (∃ fault, op.merge e = (.error fault, op) ∧ op.generation = .v07
        ∧ ¬ (op.applied e).Fits) := by
  cases hg : op.generation with
  | v06 =>
    have hm : op.merge e = (.ok (), op.applied e) := by simp [merge, hg]
    exact Or.inl ⟨hm, fits_of_generation_v06 (by rw [generation_applied, hg])⟩
  | v07 =>
    cases hc : checkFields (op.applied e).narrowFields with
    | ok u =>
      have hm : op.merge e = (.ok (), op.applied e) := by simp [merge, hg, hc]
      exact Or.inl ⟨hm, checkFields_eq_ok_iff.mp hc⟩
    | error fault =>
      have hm : op.merge e = (.error fault, op) := by simp [merge, hg, hc]
      refine Or.inr ⟨fault, hm, rfl, fun hfits => ?_⟩
      have hok := checkFields_eq_ok_iff.mpr hfits
      rw [hc] at hok
      cases hok

/-- Merging succeeds exactly if the operation with its fields replaced fits, and gives it. -/
theorem map_merge_eq_ok_iff {op op' : UserOperation} {e : Estimation} :
    (op.merge e).1.map (fun _ => (op.merge e).2) = .ok op' ↔ op' = op.applied e ∧ op'.Fits := by
  rcases op.merge_cases e with ⟨hmerge, hfits⟩ | ⟨fault, hmerge, -, hmisfit⟩
  · rw [hmerge]
    constructor
    · intro h
      cases h
      exact ⟨rfl, hfits⟩
    · rintro ⟨rfl, -⟩
      rfl
  · rw [hmerge]
    constructor
    · intro h
      cases h
    · rintro ⟨rfl, hfits⟩
      exact absurd hfits hmisfit

end SafeOps.UserOperation
