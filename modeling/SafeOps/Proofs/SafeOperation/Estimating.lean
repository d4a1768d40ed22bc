import SafeOps.Proofs.SafeOperation.Invariant
import SafeOps.Proofs.UserOperation.Merging

/-!
# `SafeOps.Proofs.SafeOperation.Estimating`: estimations are taken whole or not at all

`Estimated` is the contract of `addEstimation` for one operation and one estimation. Whether the
estimation is taken depends on the signatures, on the generation and, in the second one, on the
fields of the estimation alone: what the operation had before is known to fit. An estimation that
is refused leaves everything as it is. One that is taken leaves exactly the fields that `Merged`
lists, and putting it in once more has the same answer and changes nothing.

`estimated_run` is the contract for every operation, however it was made and changed.
-/

set_option autoImplicit false

namespace SafeOps.SafeOperation

open UserOperation (misfit? misfitError Merged)

variable {s : SafeOperation} {e : Estimation}

/-! ### The answer -/

theorem addEstimation_empty (s : SafeOperation) : s.addEstimation .empty = (.ok (), s) := rfl

/-- An operation that somebody has signed refuses every estimation that knows anything. -/
theorem addEstimation_of_signed (hne : e ≠ .empty) (hsigned : s.signatures.entries ≠ []) :
    s.addEstimation e = (.error (.signed s.signatures.entries.length), s) := by
  have hknows : ¬ e.isEmpty = true := fun hempty => hne (of_decide_eq_true hempty)
  have hsignatures : (!s.signatures.isEmpty) = true := by
    simpa [SignatureSet.isEmpty] using hsigned
  rw [addEstimation, if_neg hknows, if_pos hsignatures]
  rfl

/-- While nobody has signed, an estimation goes into the operation. -/
theorem addEstimation_of_unsigned (hne : e ≠ .empty) (hsigned : s.signatures.entries = []) :
    s.addEstimation e
      = ((s.operation.merge e).1.mapError .tooWide,
          { s with operation := (s.operation.merge e).2 }) := by
  have hknows : ¬ e.isEmpty = true := fun hempty => hne (of_decide_eq_true hempty)
  have hsignatures : ¬ (!s.signatures.isEmpty) = true := by
    simp [SignatureSet.isEmpty, hsigned]
  rw [addEstimation, if_neg hknows, if_neg hsignatures]

/-- An estimation is taken if nobody has signed and the new fields fit. -/
theorem addEstimation_of_fits (hsigned : s.signatures.entries = [])
    (hfits : (s.operation.applied e).Fits) :
    s.addEstimation e = (.ok (), { s with operation := s.operation.applied e }) := by
  by_cases hne : e = .empty
  · rw [hne, addEstimation_empty, UserOperation.applied_empty]
  · rw [addEstimation_of_unsigned hne hsigned]
    rcases s.operation.merge_cases e with ⟨hmerge, -⟩ | ⟨fault, -, -, hmisfit⟩
    · rw [hmerge]
      rfl
    · exact absurd hfits hmisfit

/-- In the second generation the first field that does not fit is refused. -/
theorem addEstimation_of_generation_v07 (hfits : s.operation.Fits) (hne : e ≠ .empty)
    (hsigned : s.signatures.entries = []) (hgeneration : s.operation.generation = .v07) :
    (s.addEstimation e).1
      = (misfit? e.narrowFields).elim (.ok ()) fun f => .error (.tooWide (misfitError f)) := by
  rw [addEstimation_of_unsigned hne hsigned, UserOperation.merge, hgeneration]
  simp only [UserOperation.checkFields_applied hfits hgeneration, UserOperation.checkFields_eq]
  cases misfit? e.narrowFields <;> rfl

/-! ### The contract -/

/-- All that putting an estimation into an operation does. -/
structure Estimated (s : SafeOperation) (e : Estimation) : Prop where
  /-- An estimation that knows nothing is always allowed and changes nothing. -/
  empty : e = .empty → s.addEstimation e = (.ok (), s)
  /-- Any other is refused if there are signatures, with their number. -/
  signed : e ≠ .empty → s.signatures.entries ≠ [] →
    (s.addEstimation e).1 = .error (.signed s.signatures.entries.length)
  /-- The first generation takes anything else. -/
  v06 : e ≠ .empty → s.signatures.entries = [] → s.operation.generation = .v06 →
    (s.addEstimation e).1 = .ok ()
  /-- The second one refuses it exactly if a narrow field of the estimation does not fit. -/
  v07 : e ≠ .empty → s.signatures.entries = [] → s.operation.generation = .v07 →
    ((∃ fault, (s.addEstimation e).1 = .error (.tooWide fault))
      ↔ ∃ f ∈ e.narrowFields, limit 128 ≤ f.2.toNat)
  /-- There is no other reason, and the error names the first such field. -/
  first : e ≠ .empty → s.signatures.entries = [] → ∀ error,
    (s.addEstimation e).1 = .error error →
      ∃ f, misfit? e.narrowFields = some f ∧ error = .tooWide (misfitError f)
  /-- What is refused leaves the operation as it is. -/
  kept : ∀ error, (s.addEstimation e).1 = .error error → (s.addEstimation e).2 = s
  /-- What is taken leaves its fields in it and nothing else. -/
  merged : (s.addEstimation e).1 = .ok () →
    ∃ op, (s.addEstimation e).2 = { s with operation := op } ∧ Merged e s.operation op
  /-- A second time there is the same answer and no further change. -/
  again : (s.addEstimation e).2.addEstimation e = s.addEstimation e

theorem kept_of_error {error : OperationError} (h : (s.addEstimation e).1 = .error error) :
    (s.addEstimation e).2 = s := by
  rcases s.addEstimation_cases e with ⟨hs, -⟩ | ⟨error, hs⟩ | ⟨hs, -, -⟩
  · rw [hs]
  · rw [hs]
  · rw [hs] at h
    cases h

theorem merged_of_ok (h : (s.addEstimation e).1 = .ok ()) :
    ∃ op, (s.addEstimation e).2 = { s with operation := op } ∧ Merged e s.operation op :=
  ⟨s.operation.applied e, step_estimate_of_ok h, UserOperation.merged_iff.mpr rfl⟩

theorem addEstimation_again (s : SafeOperation) (e : Estimation) :
    (s.addEstimation e).2.addEstimation e = s.addEstimation e := by
  rcases s.addEstimation_cases e with ⟨hs, -⟩ | ⟨error, hs⟩ | ⟨hs, hsigned, hfits⟩
  · simp only [hs]
  · simp only [hs]
  · -- The fields are in the operation, and it still fits with them.
    let t : SafeOperation := { s with operation := s.operation.applied e }
    have hfits' : (t.operation.applied e).Fits := by
      rwa [UserOperation.applied_applied]
    have hagain : t.addEstimation e = (.ok (), { t with operation := t.operation.applied e }) :=
      addEstimation_of_fits (List.isEmpty_iff.mp hsigned) hfits'
    rw [UserOperation.applied_applied] at hagain
    rw [hs]
    exact hagain

theorem estimated_of_wellFormed (h : s.WellFormed) (e : Estimation) : Estimated s e where
  empty := by
    rintro rfl
    exact addEstimation_empty s
  signed hne hsigned := congrArg Prod.fst (addEstimation_of_signed hne hsigned)
  v06 hne hsigned hgeneration := by
    rw [addEstimation_of_unsigned hne hsigned, UserOperation.merge, hgeneration]
    rfl
  v07 hne hsigned hgeneration := by
    rw [addEstimation_of_generation_v07 h.fits hne hsigned hgeneration,
      ← UserOperation.exists_misfit?_iff]
    cases misfit? e.narrowFields with
    | none => simp
    | some f => simp
  first hne hsigned error herror := by
    cases hgeneration : s.operation.generation with
    | v06 =>
      -- Nothing is checked here.
      rw [addEstimation_of_unsigned hne hsigned, UserOperation.merge, hgeneration] at herror
      cases herror
    | v07 =>
      rw [addEstimation_of_generation_v07 h.fits hne hsigned hgeneration] at herror
      cases hmisfit : misfit? e.narrowFields with
      | none =>
        rw [hmisfit] at herror
        cases herror
      | some f =>
        rw [hmisfit] at herror
        exact ⟨f, rfl, (Except.error.inj herror).symm⟩
  kept _ := kept_of_error
  merged := merged_of_ok
  again := addEstimation_again s e

/-- However an operation was made and changed, every estimation is taken whole or not at all. -/
theorem estimated_run {o : Origin} {s₀ : SafeOperation} (h : o.make = .ok s₀)
    (changes : List Change) (e : Estimation) : Estimated (s₀.run changes) e :=
  estimated_of_wellFormed (wellFormed_run h changes) e

/-- A record with confirmations refuses an estimation. Without them it refuses one that has two
fields that do not fit behind one that does, and names the first of them. -/
theorem estimated_run_sample :
    ∃ (s₀ s : SafeOperation) (e : Estimation), Origin.sample.make = .ok s₀ ∧ s = s₀.run [.clear]
      ∧ e = { callGas := some 7, maxFee := some (BitVec.ofNat 256 (limit 128)),
              paymasterPostOpGas := some (BitVec.ofNat 256 (limit 128)) }
      ∧ (s₀.addEstimation e).1 = .error (.signed 2)
      ∧ (s.addEstimation e).1 = .error (.tooWide (.invalid "max_fee_per_gas"
          (.tooWide "340282366920938463463374607431768211456" 128)))
      ∧ (s.addEstimation e).2 = s := by
  let e : Estimation := { callGas := some 7, maxFee := some (BitVec.ofNat 256 (limit 128)),
                          paymasterPostOpGas := some (BitVec.ofNat 256 (limit 128)) }
  have hne : e ≠ .empty := by decide
  obtain ⟨s₀, hmake, hsome, hlength, hcleared, hgeneration⟩ : ∃ s₀, Origin.sample.make = .ok s₀
      ∧ s₀.signatures.entries ≠ [] ∧ s₀.signatures.entries.length = 2
      ∧ (s₀.run [.clear]).signatures.entries = []
      ∧ (s₀.run [.clear]).operation.generation = .v07 := ⟨_, rfl, nofun, rfl, rfl, rfl⟩
  have hbefore := estimated_run hmake [] e
  have hafter := estimated_run hmake [.clear] e
  have hwide : ∃ f ∈ e.narrowFields, limit 128 ≤ f.2.toNat := by decide
  obtain ⟨fault, hfault⟩ := (hafter.v07 hne hcleared hgeneration).mpr hwide
  obtain ⟨f, hfirst, herror⟩ := hafter.first hne hcleared _ hfault
  have hf : misfit? e.narrowFields
      = some ("max_fee_per_gas", BitVec.ofNat 256 (limit 128)) := by decide
  obtain rfl := Option.some.inj (hf.symm.trans hfirst)
  refine ⟨s₀, _, e, hmake, rfl, rfl, hlength ▸ hbefore.signed hne hsome, ?_, hafter.kept _ hfault⟩
  rw [hfault, herror]
  rfl

end SafeOps.SafeOperation
