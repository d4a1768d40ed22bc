import SafeOps.Proofs.Failable
import SafeOps.Proofs.SafeOperation.Run
import SafeOps.Proofs.SigningContext
import SafeOps.SafeOperation.Record

/-!
# `SafeOps.Proofs.SafeOperation.Construction`: where operations come from

An operation is made from a draft, from an operation of a bundler's shape, or from a record
of an indexing service (`Origin`). `ofDraft_eq_ok_iff` and `ofUserOperation_eq_ok_iff` say
exactly when the first two succeed and with what. `toUserOperation_eq_ok_iff` does so for the
operation inside a record, whose shape is put together from code and a packed paymaster
(`restoredShape`).

A record brings confirmations along. `Origin.base` is the operation before any of them is
added, and `Origin.confirmations` are the changes that add them. `make_eq_map_run` says that
making an operation is running these changes from its base, so that every history starts at
an operation without signatures. `base_eq_ok` says what such a base is.
-/

set_option autoImplicit false

namespace SafeOps

namespace SafeOperation

/-! ### Drafts and operations of a bundler's shape -/

/-- The check of a context finds the generation of its entry point, if its span of time is
sound. -/
theorem checkContext_eq_ok_iff {c : SigningContext} {generation : EntryPoint} :
    checkContext c = .ok generation
      ↔ c.Sound ∧ EntryPoint.ofAddress c.entryPoint = .ok generation := by
  rw [← SigningContext.checkWindow_eq_ok_iff]
  simp only [checkContext, bind_eq_ok_iff, mapError_eq_ok_iff]
  constructor
  · rintro ⟨_, hwindow, hentry⟩
    exact ⟨hwindow, hentry⟩
  · rintro ⟨hwindow, hentry⟩
    exact ⟨(), hwindow, hentry⟩

/-- A draft is taken exactly if its context is sound, its entry point is known, and it fits
in the shape of that entry point. -/
theorem ofDraft_eq_ok_iff {d : Draft} {c : SigningContext} {s : SafeOperation} :
    ofDraft d c = .ok s ↔
      ∃ generation, c.Sound ∧ EntryPoint.ofAddress c.entryPoint = .ok generation
        ∧ (UserOperation.shaped generation d).Fits
        ∧ s = ⟨UserOperation.shaped generation d, c, .empty⟩ := by
  simp only [ofDraft, UserOperation.ofDraft, bind_eq_ok_iff, pure_eq_ok_iff, mapError_eq_ok_iff,
    checkContext_eq_ok_iff, UserOperation.checked_eq_ok_iff]
  constructor
  · rintro ⟨generation, ⟨hsound, hentry⟩, op, ⟨hfits, rfl⟩, rfl⟩
    exact ⟨generation, hsound, hentry, hfits, rfl⟩
  · rintro ⟨generation, hsound, hentry, hfits, rfl⟩
    exact ⟨generation, ⟨hsound, hentry⟩, _, ⟨hfits, rfl⟩, rfl⟩

/-- An operation of a bundler's shape is taken exactly if its context is sound, its
generation is that of the entry point, and it fits. It loses its signature. -/
theorem ofUserOperation_eq_ok_iff {op : UserOperation} {c : SigningContext}
    {s : SafeOperation} :
    ofUserOperation op c = .ok s ↔
      c.Sound ∧ EntryPoint.ofAddress c.entryPoint = .ok op.generation ∧ op.Fits
        ∧ s = ⟨op.withSignature [], c, .empty⟩ := by
  simp only [ofUserOperation, bind_eq_ok_iff, checkContext_eq_ok_iff]
  constructor
  · rintro ⟨generation, ⟨hsound, hentry⟩, hs⟩
    split at hs
    · cases hs
    · rename_i hgeneration
      simp only [bind_eq_ok_iff, pure_eq_ok_iff, mapError_eq_ok_iff,
        UserOperation.checked_eq_ok_iff] at hs
      obtain ⟨op', ⟨hfits, rfl⟩, rfl⟩ := hs
      rw [Decidable.not_not.mp hgeneration]
      exact ⟨hsound, hentry, hfits, rfl⟩
  · rintro ⟨hsound, hentry, hfits, rfl⟩
    refine ⟨op.generation, ⟨hsound, hentry⟩, ?_⟩
    rw [if_neg (fun hne => hne rfl)]
    simp only [bind_eq_ok_iff, pure_eq_ok_iff, mapError_eq_ok_iff,
      UserOperation.checked_eq_ok_iff]
    exact ⟨op, ⟨hfits, rfl⟩, rfl⟩

end SafeOperation

/-! ### Records -/

namespace SafeOperationRecord

/-- The shape of an operation that is taken out of a record, with its paymaster put in. -/
def restoredShape (r : SafeOperationRecord) : EntryPoint → Shape
  | .v06 => .v06 (r.initCode.getD []) r.packedPaymaster
  | .v07 =>
    let (factory, data) := splitInitCode (r.initCode.getD [])
    .v07 factory data (Paymaster.unpack r.packedPaymaster)

@[simp] theorem generation_restoredShape (r : SafeOperationRecord) (generation : EntryPoint) :
    (r.restoredShape generation).generation = generation := by
  cases generation <;> rfl

/-- An operation is taken out of a record exactly if the quantities are read, the entry point is
known, and what they give fits. -/
theorem toUserOperation_eq_ok_iff {r : SafeOperationRecord} {sender : Address}
    {op : UserOperation} :
    r.toUserOperation sender = .ok op ↔
      ∃ nonce gas generation, quantity "nonce" r.nonce = .ok nonce ∧ r.gas = .ok gas
        ∧ EntryPoint.ofAddress r.entryPoint = .ok generation
        ∧ op = ⟨sender, nonce, r.callData, gas, r.restoredShape generation, []⟩ ∧ op.Fits := by
  simp only [toUserOperation, bind_eq_ok_iff, mapError_eq_ok_iff]
  constructor
  · rintro ⟨nonce, hnonce, gas, hgas, generation, hentry, h⟩
    refine ⟨nonce, gas, generation, hnonce, hgas, hentry, ?_⟩
    cases generation with
    | v06 =>
      rw [pure_eq_ok_iff] at h
      subst h
      exact ⟨rfl, UserOperation.fits_of_generation_v06 rfl⟩
    | v07 => exact UserOperation.map_merge_eq_ok_iff.mp (mapError_eq_ok_iff.mp h)
  · rintro ⟨nonce, gas, generation, hnonce, hgas, hentry, h⟩
    refine ⟨nonce, hnonce, gas, hgas, generation, hentry, ?_⟩
    cases generation with
    | v06 => exact pure_eq_ok_iff.mpr h.1.symm
    | v07 => exact mapError_eq_ok_iff.mpr (UserOperation.map_merge_eq_ok_iff.mpr h)

end SafeOperationRecord

/-! ### Origins -/

/-- What an operation is made from. -/
inductive Origin where
  | draft (d : Draft) (c : SigningContext)
  /-- An operation of a bundler's shape. -/
  | wire (op : UserOperation) (c : SigningContext)
  /-- A record of an indexing service. -/
  | record (r : SafeOperationRecord) (chainId : BitVec 64)

namespace Origin

open SafeOperation (Change)

def make : Origin → Except OperationError SafeOperation
  | draft d c => SafeOperation.ofDraft d c
  | wire op c => SafeOperation.ofUserOperation op c
  | record r chainId => SafeOperation.ofRecord r chainId

/-- The operation before the confirmations of a record are added. -/
def base : Origin → Except OperationError SafeOperation
  | draft d c => SafeOperation.ofDraft d c
  | wire op c => SafeOperation.ofUserOperation op c
  | record r chainId =>
    match r.userOperation with
    | none => .error (.record .noSender)
    | some inner => do
      let op ← r.toUserOperation inner.sender
      let context ← r.toContext chainId
      SafeOperation.ofUserOperation op context

/-- The confirmations of a record, as changes. -/
def confirmations : Origin → List Change
  | record r _ => r.confirmations.map fun c => .sign c.toSignature
  | _ => []

/-- Making an operation is adding its confirmations to its base. -/
theorem make_eq_map_run (o : Origin) :
    o.make = o.base.map fun s => s.run o.confirmations := by
  cases o with
  | draft d c =>
    show SafeOperation.ofDraft d c = (SafeOperation.ofDraft d c).map fun s => s.run []
    cases SafeOperation.ofDraft d c <;> rfl
  | wire op c =>
    show SafeOperation.ofUserOperation op c
      = (SafeOperation.ofUserOperation op c).map fun s => s.run []
    cases SafeOperation.ofUserOperation op c <;> rfl
  | record r chainId =>
    have hfold : ∀ s : SafeOperation,
        r.confirmations.foldl (fun s c => s.addSignature c.toSignature) s
          = s.run (r.confirmations.map fun c => .sign c.toSignature) := by
      intro s
      rw [SafeOperation.run, List.foldl_map]
      rfl
    simp only [make, base, confirmations, SafeOperation.ofRecord, hfold]
    -- Up to the confirmations both sides are the same chain of steps.
    cases r.userOperation with
    | none => rfl
    | some inner =>
      simp only [bind, Except.bind, pure, Except.pure]
      cases r.toUserOperation inner.sender with
      | error e => rfl
      | ok op =>
        cases hc : r.toContext chainId with
        | error e => rfl
        | ok c => cases hs : SafeOperation.ofUserOperation op c <;> rfl

/-- The confirmations of a record go into the set of signatures and change nothing else. -/
theorem run_confirmations_record (r : SafeOperationRecord) (chainId : BitVec 64)
    (s : SafeOperation) : s.run (record r chainId).confirmations
      = ⟨s.operation, s.context,
          (r.confirmations.map Confirmation.toSignature).foldl SignatureSet.add s.signatures⟩ := by
  rw [← SafeOperation.run_sign, List.map_map]
  rfl

theorem make_eq_ok {o : Origin} {s : SafeOperation} (h : o.make = .ok s) :
    ∃ base, o.base = .ok base ∧ s = base.run o.confirmations := by
  rw [make_eq_map_run, map_eq_ok_iff] at h
  obtain ⟨base, hbase, hs⟩ := h
  exact ⟨base, hbase, hs.symm⟩

/-- The base of a record is made from an operation and a context that are read from it. -/
theorem base_record_eq_ok {r : SafeOperationRecord} {chainId : BitVec 64}
    {s : SafeOperation} (h : (record r chainId).base = .ok s) :
    ∃ inner op c, r.userOperation = some inner ∧ r.toUserOperation inner.sender = .ok op
      ∧ r.toContext chainId = .ok c ∧ SafeOperation.ofUserOperation op c = .ok s := by
  simp only [base] at h
  cases hu : r.userOperation with
  | none => simp [hu] at h
  | some inner =>
    simp only [hu, bind_eq_ok_iff] at h
    obtain ⟨op, hop, c, hc, hs⟩ := h
    exact ⟨inner, op, c, rfl, hop, hc, hs⟩

/-- A base has a sound context, the generation of its entry point, fields that fit, and no
signature of any kind. -/
theorem base_eq_ok {o : Origin} {s : SafeOperation} (h : o.base = .ok s) :
    s.context.Sound ∧ EntryPoint.ofAddress s.context.entryPoint = .ok s.operation.generation
      ∧ s.operation.Fits ∧ s.operation.signature = [] ∧ s.signatures = .empty := by
  have hwire : ∀ {op c}, SafeOperation.ofUserOperation op c = .ok s →
      s.context.Sound ∧ EntryPoint.ofAddress s.context.entryPoint = .ok s.operation.generation
        ∧ s.operation.Fits ∧ s.operation.signature = [] ∧ s.signatures = .empty := by
    intro op c hs
    obtain ⟨hsound, hentry, hfits, rfl⟩ := SafeOperation.ofUserOperation_eq_ok_iff.mp hs
    exact ⟨hsound, hentry, UserOperation.fits_withSignature.mpr hfits, rfl, rfl⟩
  cases o with
  | draft d c =>
    obtain ⟨generation, hsound, hentry, hfits, rfl⟩ := SafeOperation.ofDraft_eq_ok_iff.mp h
    refine ⟨hsound, ?_, hfits, rfl, rfl⟩
    show EntryPoint.ofAddress c.entryPoint = .ok (UserOperation.shaped generation d).generation
    rw [UserOperation.generation_shaped, hentry]
  | wire op c => exact hwire h
  | record r chainId =>
    obtain ⟨inner, op, c, -, -, -, hs⟩ := base_record_eq_ok h
    exact hwire hs

/-- A record of the second generation with code, a paymaster, a span of time, and the
confirmations of a key and of a contract. -/
def sample : Origin :=
  .record {
    created := "2024-09-16T15:43:32Z"
    modified := none
    hash := "0x"
    nonce := "0x3"
    initCode := some (List.replicate 24 0x07)
    callData := [0x7b, 0xb3, 0x74, 0x28]
    callGas := "120000"
    verificationGas := "0xffffffffffffffffffffffffffffffff"
    preVerificationGas := "50"
    maxFee := "7"
    maxPriorityFee := "1"
    paymaster := some ⟨5⟩
    paymasterData := some (List.replicate 33 0x01)
    entryPoint := EntryPoint.v07.address
    validAfter := some "1970-01-01T00:00:05Z"
    validUntil := some "2024-09-16T15:43:32Z"
    module := ⟨9⟩
    confirmations := [
      ⟨"2024-09-16T15:43:32Z", none, ⟨3⟩, List.replicate 65 0x01, "EOA"⟩,
      ⟨"2024-09-16T15:43:32Z", none, ⟨2⟩, [0x01, 0x02], Confirmation.contractType⟩]
    preparedSignature := none
    userOperation := some {
      transactionHash := none
      sender := ⟨1⟩
      hash := "0x"
      nonce := "3"
      initCode := none
      callData := []
      callGas := "1"
      verificationGas := "1"
      preVerificationGas := "1"
      maxFee := "1"
      maxPriorityFee := "1"
      paymaster := none
      paymasterData := none
      signature := none
      entryPoint := EntryPoint.v07.address } } 1

end Origin

end SafeOps
