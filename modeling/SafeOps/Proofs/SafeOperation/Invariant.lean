import SafeOps.Proofs.SafeOperation.Construction

/-!
# `SafeOps.Proofs.SafeOperation.Invariant`: what holds of every operation

Hashes and packed forms cut quantities to the width they are written with. That is no loss
because every operation is `WellFormed`: its span of time is sound, its shape is that of its
entry point, its fields fit, and its own signature field is empty. A base is well-formed, and
`wellFormed_step` carries this over every change.

`Kept` is what an operation keeps from its construction on, and `Origin.Gives` says where each
part of it comes from.

The main statement is `invariant_run`. It reads the bounds out field by field, for every
origin and all changes, refused estimations included.
-/

set_option autoImplicit false

namespace SafeOps

namespace SafeOperation

/-! ### The invariant -/

/-- What holds of every operation on its way. -/
structure WellFormed (s : SafeOperation) : Prop where
  sound : s.context.Sound
  generation : EntryPoint.ofAddress s.context.entryPoint = .ok s.operation.generation
  fits : s.operation.Fits
  unsigned : s.operation.signature = []

/-- Every change keeps an operation well-formed. Only an estimation touches the operation
itself, and one that is taken fits. -/
theorem wellFormed_step (s : SafeOperation) (c : Change) (h : s.WellFormed) :
    (s.step c).WellFormed := by
  cases c with
  | estimate e =>
    rcases s.step_estimate_cases e with hs | ⟨hs, -, hfits⟩
    · rw [hs]
      exact h
    · rw [hs]
      refine ⟨h.sound, ?_, hfits, h.unsigned⟩
      show EntryPoint.ofAddress s.context.entryPoint = .ok (s.operation.applied e).generation
      rw [UserOperation.generation_applied]
      exact h.generation
  | sign signature => exact ⟨h.sound, h.generation, h.fits, h.unsigned⟩
  | clear => exact ⟨h.sound, h.generation, h.fits, h.unsigned⟩

/-! ### What stays -/

/-- What an operation keeps from its construction on. -/
structure Kept where
  context : SigningContext
  sender : Address
  nonce : Word
  callData : Bytes
  /-- What deploys the sender. -/
  initCode : Bytes

def kept (s : SafeOperation) : Kept where
  context := s.context
  sender := s.operation.sender
  nonce := s.operation.nonce
  callData := s.operation.callData
  initCode := s.operation.initCode

theorem kept_step (s : SafeOperation) (c : Change) : (s.step c).kept = s.kept := by
  cases c with
  | estimate e =>
    rcases s.step_estimate_cases e with hs | ⟨hs, -, -⟩
    · rw [hs]
    · rw [hs]
      simp only [kept, UserOperation.initCode_applied]
      rfl
  | sign signature => rfl
  | clear => rfl

theorem kept_run (s : SafeOperation) (changes : List Change) : (s.run changes).kept = s.kept :=
  run_induction (P := fun t => t.kept = s.kept) (fun t c h => (kept_step t c).trans h) rfl changes

end SafeOperation

/-! ### Where it comes from -/

/-- The code that deploys the sender of a draft: the factory and its data. -/
def Draft.initCode (d : Draft) : Bytes :=
  match d.deployment with
  | some (factory, data) => factory.toBytes ++ data
  | none => []

theorem UserOperation.initCode_shaped (generation : EntryPoint) (d : Draft) :
    (shaped generation d).initCode = d.initCode := by
  unfold Draft.initCode
  cases generation <;> rcases h : d.deployment with _ | ⟨factory, data⟩ <;>
    simp [initCode, shaped, Shape.ofDeployment, Shape.initCode, h]

/-- The paymaster that is put in does not touch the code of a record. -/
theorem SafeOperationRecord.initCode_restoredShape (r : SafeOperationRecord)
    (generation : EntryPoint) :
    (r.restoredShape generation).initCode = (r.shape generation).initCode := by
  have hpaymaster : ∀ factory data p q,
      (Shape.v07 factory data p).initCode = (Shape.v07 factory data q).initCode := by
    intro factory data p q
    cases factory <;> rfl
  cases generation with
  | v06 => rfl
  | v07 => exact hpaymaster _ _ _ _

namespace Origin

open SafeOperation (Kept Change)

/-- What an operation keeps is what its origin gives. A draft and an operation of a bundler's
shape give it as it is. A record gives texts, which are read, and code, which is put into
the shape of its entry point. -/
def Gives : Origin → Kept → Prop
  | draft d c, kept => kept = ⟨c, d.sender, d.nonce, d.callData, d.initCode⟩
  | wire op c, kept => kept = ⟨c, op.sender, op.nonce, op.callData, op.initCode⟩
  | record r chainId, kept =>
    r.toContext chainId = .ok kept.context
      ∧ (∃ inner, r.userOperation = some inner ∧ kept.sender = inner.sender)
      ∧ SafeOperationRecord.quantity "nonce" r.nonce = .ok kept.nonce
      ∧ kept.callData = r.callData
      ∧ ∃ generation, EntryPoint.ofAddress r.entryPoint = .ok generation
        ∧ kept.initCode = (r.shape generation).initCode

theorem gives_of_base {o : Origin} {s : SafeOperation} (h : o.base = .ok s) :
    o.Gives s.kept := by
  cases o with
  | draft d c =>
    obtain ⟨generation, -, -, -, rfl⟩ := SafeOperation.ofDraft_eq_ok_iff.mp h
    simp only [Gives, SafeOperation.kept, UserOperation.initCode_shaped]
    rfl
  | wire op c =>
    obtain ⟨-, -, -, rfl⟩ := SafeOperation.ofUserOperation_eq_ok_iff.mp h
    rfl
  | record r chainId =>
    obtain ⟨inner, op, c, hinner, hop, hc, hs⟩ := base_record_eq_ok h
    obtain ⟨-, -, -, rfl⟩ := SafeOperation.ofUserOperation_eq_ok_iff.mp hs
    obtain ⟨nonce, gas, generation, hnonce, -, hentry, rfl, -⟩ :=
      SafeOperationRecord.toUserOperation_eq_ok_iff.mp hop
    exact ⟨hc, ⟨inner, hinner, rfl⟩, hnonce, rfl, generation, hentry,
      r.initCode_restoredShape generation⟩

/-- The confirmations of a record leave alone what an operation keeps. -/
theorem gives_of_make {o : Origin} {s : SafeOperation} (h : o.make = .ok s) : o.Gives s.kept := by
  obtain ⟨base, hbase, rfl⟩ := make_eq_ok h
  rw [SafeOperation.kept_run]
  exact gives_of_base hbase

end Origin

namespace SafeOperation

/-- Every operation that was made is well-formed, after any changes. -/
theorem wellFormed_run {o : Origin} {s : SafeOperation} (h : o.make = .ok s)
    (changes : List Change) : (s.run changes).WellFormed := by
  obtain ⟨base, hbase, rfl⟩ := Origin.make_eq_ok h
  obtain ⟨hsound, hentry, hfits, hunsigned, -⟩ := Origin.base_eq_ok hbase
  rw [← run_append]
  exact run_induction wellFormed_step ⟨hsound, hentry, hfits, hunsigned⟩ _

/-- What holds of an operation `s` that came about by changes from `s₀`, which was made from
`o`. -/
structure Invariant (o : Origin) (s₀ s : SafeOperation) : Prop where
  /-- The shape is that of the entry point. -/
  generation : EntryPoint.ofAddress s.context.entryPoint = .ok s.operation.generation
  validAfter_lt : s.context.validAfter.toNat < limit 48
  validUntil_lt : s.context.validUntil.toNat < limit 48
  ordered : s.context.validUntil = 0 ∨ s.context.validAfter.toNat ≤ s.context.validUntil.toNat
  /-- The narrow gas fields of the second generation have 128 bits. -/
  gas_lt : ∀ {factory data paymaster}, s.operation.shape = .v07 factory data paymaster →
    s.operation.gas.call.toNat < limit 128 ∧ s.operation.gas.verification.toNat < limit 128
      ∧ s.operation.gas.maxFee.toNat < limit 128
      ∧ s.operation.gas.maxPriorityFee.toNat < limit 128
  /-- So has the gas of its paymaster, where there is some. -/
  paymasterGas_lt : ∀ {factory data paymaster},
    s.operation.shape = .v07 factory data paymaster →
      (∀ gas ∈ paymaster.verificationGas, gas.toNat < limit 128)
        ∧ ∀ gas ∈ paymaster.postOpGas, gas.toNat < limit 128
  unsigned : s.operation.signature = []
  kept : s.kept = s₀.kept
  gives : o.Gives s.kept

/-- However an operation was made and changed, its shape is that of its entry point, its span
of time fits 48 bits and is in order, the narrow fields of the second generation fit 128
bits, and its signature field is empty. Context, sender, nonce, call and code are those it
was made with. -/
theorem invariant_run {o : Origin} {s₀ : SafeOperation} (h : o.make = .ok s₀)
    (changes : List Change) : Invariant o s₀ (s₀.run changes) := by
  have hwell : (s₀.run changes).WellFormed := wellFormed_run h changes
  have hkept : (s₀.run changes).kept = s₀.kept := kept_run s₀ changes
  exact {
    generation := hwell.generation
    validAfter_lt := hwell.sound.validAfter_lt
    validUntil_lt := hwell.sound.validUntil_lt
    ordered := hwell.sound.ordered
    gas_lt := fun hshape => ((UserOperation.fits_iff hshape).mp hwell.fits).1
    paymasterGas_lt := fun hshape => ((UserOperation.fits_iff hshape).mp hwell.fits).2
    unsigned := hwell.unsigned
    kept := hkept
    gives := hkept ▸ Origin.gives_of_make h }

/-- A record with a deployment, a paymaster and two confirmations, then an estimation that is
refused, one that is taken after the signatures were dropped, and one that does not fit. -/
theorem invariant_run_sample :
    ∃ s₀, Origin.sample.make = .ok s₀
      ∧ Invariant Origin.sample s₀ (s₀.run [.estimate { callGas := some 7 }, .clear,
          .estimate { callGas := some 7 },
          .estimate { maxFee := some (BitVec.ofNat 256 (limit 128)) }]) :=
  ⟨_, rfl, invariant_run rfl _⟩

end SafeOperation

end SafeOps
