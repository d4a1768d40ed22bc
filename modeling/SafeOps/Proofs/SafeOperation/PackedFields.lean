import SafeOps.Proofs.SafeOperation.Resuming

/-!
# `SafeOps.Proofs.SafeOperation.PackedFields`: what is left of the packed fields of a record

A record has the code that deploys an account in packed form, and who pays as an address with
everything behind it. The first generation of entry points takes both as they are. The second one
takes them apart: code behind the 20 bytes of a factory, a paymaster behind 52 bytes, which are an
address and two gas limits. What is shorter counts as nothing, and the record is taken up all the
same.

`EntryPoint.remnant` is what comes out of a packed field. Nothing is lost exactly if the field is
`Whole` (`remnant_eq_iff`). The main statement, `keptBy_ofRecord_iff`, follows both fields into the
operation and into the strings that its two hashes are made from, which are the leaves of their
preimages (`bytes_hashPreimage`, `bytes_entryPointHashPreimage`). Behind it stands a record that
loses its code and its paymaster (`not_keptBy_clipped`).
-/

set_option autoImplicit false

namespace SafeOps

/-! ### Fields that are taken apart -/

namespace EntryPoint

/-- What an operation of a generation has of a packed field. The second generation takes it apart
behind a header, and anything shorter is nothing. -/
def remnant (header : Nat) (packed : Bytes) : EntryPoint → Bytes
  | .v06 => packed
  | .v07 => if packed.length < header then [] else packed

/-- A packed field is not taken apart, is empty, or has a whole header. -/
def Whole (header : Nat) (packed : Bytes) (generation : EntryPoint) : Prop :=
  generation = .v06 ∨ packed = [] ∨ header ≤ packed.length

theorem remnant_v07_of_lt {header : Nat} {packed : Bytes} (h : packed.length < header) :
    v07.remnant header packed = [] :=
  if_pos h

theorem remnant_v07_of_le {header : Nat} {packed : Bytes} (h : header ≤ packed.length) :
    v07.remnant header packed = packed :=
  if_neg (Nat.not_lt.mpr h)

/-- Nothing is lost exactly if the field is whole. -/
theorem remnant_eq_iff {header : Nat} {packed : Bytes} {generation : EntryPoint} :
    generation.remnant header packed = packed ↔ generation.Whole header packed := by
  cases generation with
  | v06 => exact ⟨fun _ => Or.inl rfl, fun _ => rfl⟩
  | v07 =>
    rcases Nat.lt_or_ge packed.length header with hlt | hle
    · rw [remnant_v07_of_lt hlt]
      constructor
      · exact fun hnil => Or.inr (Or.inl hnil.symm)
      · rintro (hv06 | hnil | hle)
        · cases hv06
        · exact hnil.symm
        · exact absurd hle (Nat.not_le.mpr hlt)
    · exact ⟨fun _ => Or.inr (Or.inr hle), fun _ => remnant_v07_of_le hle⟩

end EntryPoint

namespace SafeOperationRecord

/-- The size of an address, behind which code is taken apart. -/
def factorySize : Nat := 20

variable {r : SafeOperationRecord} {s : SafeOperation} {chainId : BitVec 64}

/-- The code of an operation that is taken out of a record. -/
theorem initCode_restoredShape_eq_remnant (r : SafeOperationRecord) (generation : EntryPoint) :
    (r.restoredShape generation).initCode
      = generation.remnant factorySize (r.initCode.getD []) := by
  cases generation with
  | v06 => rfl
  | v07 =>
    rcases Nat.lt_or_ge (r.initCode.getD []).length factorySize with hlt | hle
    · rw [EntryPoint.remnant_v07_of_lt hlt, restoredShape]
      simp only [splitInitCode, if_pos (show (r.initCode.getD []).length < 20 from hlt)]
      rfl
    · rw [EntryPoint.remnant_v07_of_le hle]
      exact initCode_splitInitCode (Or.inr hle) _

/-- Its paymaster, put into packed form again. -/
theorem paymasterAndData_restoredShape_eq_remnant (r : SafeOperationRecord)
    (generation : EntryPoint) :
    (r.restoredShape generation).paymasterAndData
      = generation.remnant Paymaster.headerSize r.packedPaymaster := by
  cases generation with
  | v06 => rfl
  | v07 =>
    show (Paymaster.unpack r.packedPaymaster).pack = _
    rcases Nat.lt_or_ge r.packedPaymaster.length Paymaster.headerSize with hlt | hle
    · rw [EntryPoint.remnant_v07_of_lt hlt, Paymaster.unpack_of_lt hlt]
      rfl
    · rw [EntryPoint.remnant_v07_of_le hle]
      exact Paymaster.pack_unpack hle

/-- The shape of an operation that was taken up is the restored one. Confirmations do not change
it. -/
theorem exists_shape_ofRecord (h : SafeOperation.ofRecord r chainId = .ok s) :
    ∃ generation, EntryPoint.ofAddress r.entryPoint = .ok generation
      ∧ s.operation.shape = r.restoredShape generation := by
  obtain ⟨base, hbase, rfl⟩ := Origin.make_eq_ok (o := .record r chainId) h
  obtain ⟨inner, op, c, -, hop, -, hwire⟩ := Origin.base_record_eq_ok hbase
  obtain ⟨-, -, -, rfl⟩ := SafeOperation.ofUserOperation_eq_ok_iff.mp hwire
  obtain ⟨nonce, gas, generation, -, -, hentry, rfl, -⟩ := toUserOperation_eq_ok_iff.mp hop
  refine ⟨generation, hentry, ?_⟩
  rw [Origin.run_confirmations_record]
  rfl

end SafeOperationRecord

/-! ### Fields that are signed -/

-- Seven leaves come before it: the mark of signed data, the domain, the type of the record, sender
-- and nonce, code, call, gas.
/-- The packed paymaster among the strings that the owners' hash is made from. -/
def SafeOperation.signedPaymaster (s : SafeOperation) : Option Bytes :=
  s.hashPreimage.leaves[7]?

-- Four leaves come before it: sender and nonce, code, call, gas.
/-- The packed paymaster among the strings that the entry point's hash is made from. -/
def SafeOperation.submittedPaymaster (s : SafeOperation) : Option Bytes :=
  s.entryPointHashPreimage.leaves[4]?

theorem SafeOperation.signedPaymaster_eq (s : SafeOperation) :
    s.signedPaymaster = some s.operation.paymasterAndData := rfl

theorem SafeOperation.submittedPaymaster_eq (s : SafeOperation) :
    s.submittedPaymaster = some s.operation.paymasterAndData := rfl

namespace SafeOperationRecord

variable {r : SafeOperationRecord} {s : SafeOperation} {chainId : BitVec 64}

/-- An operation has the code of a record, and both its hashes are made from the paymaster of the
record. -/
structure KeptBy (r : SafeOperationRecord) (s : SafeOperation) : Prop where
  initCode : s.operation.initCode = r.initCode.getD []
  signed : s.signedPaymaster = some r.packedPaymaster
  submitted : s.submittedPaymaster = some r.packedPaymaster

/-- Whatever the sizes of its fields, an operation that was taken up has what is left of the code
and of the paymaster of its record, in both hashes. It has all of them exactly if both are whole
for the generation of its entry point. -/
theorem keptBy_ofRecord_iff (h : SafeOperation.ofRecord r chainId = .ok s) :
    ∃ generation, EntryPoint.ofAddress r.entryPoint = .ok generation
      ∧ s.operation.initCode = generation.remnant factorySize (r.initCode.getD [])
      ∧ s.signedPaymaster = some (generation.remnant Paymaster.headerSize r.packedPaymaster)
      ∧ s.submittedPaymaster = some (generation.remnant Paymaster.headerSize r.packedPaymaster)
      ∧ (r.KeptBy s ↔ generation.Whole factorySize (r.initCode.getD [])
        ∧ generation.Whole Paymaster.headerSize r.packedPaymaster) := by
  obtain ⟨generation, hentry, hshape⟩ := exists_shape_ofRecord h
  have hcode : s.operation.initCode = generation.remnant factorySize (r.initCode.getD []) := by
    rw [UserOperation.initCode, hshape, initCode_restoredShape_eq_remnant]
  have hpaymaster : s.operation.paymasterAndData
      = generation.remnant Paymaster.headerSize r.packedPaymaster := by
    rw [UserOperation.paymasterAndData, hshape, paymasterAndData_restoredShape_eq_remnant]
  have hsigned := (s.signedPaymaster_eq).trans (congrArg some hpaymaster)
  have hsubmitted := (s.submittedPaymaster_eq).trans (congrArg some hpaymaster)
  refine ⟨generation, hentry, hcode, hsigned, hsubmitted, ?_⟩
  rw [← EntryPoint.remnant_eq_iff, ← EntryPoint.remnant_eq_iff, ← hcode, ← hpaymaster]
  constructor
  · exact fun hkept => ⟨hkept.initCode, Option.some.inj hkept.signed⟩
  · rintro ⟨hinitCode, hpacked⟩
    exact ⟨hinitCode, congrArg some hpacked, congrArg some hpacked⟩

/-- A record of the second generation with four bytes of code, and with a paymaster that has
nothing behind its address. -/
def clipped : SafeOperationRecord where
  created := "2024-09-10T09:31:12.112233Z"
  modified := none
  hash := "0x00"
  nonce := "3"
  initCode := some [0x7b, 0xb3, 0x74, 0x28]
  callData := [0x7b, 0xb3, 0x74, 0x28]
  callGas := "43960"
  verificationGas := "64007"
  preVerificationGas := "9325944"
  maxFee := "110447"
  maxPriorityFee := "110000"
  paymaster := some ⟨5⟩
  paymasterData := none
  entryPoint := EntryPoint.v07.address
  validAfter := none
  validUntil := none
  module := ⟨9⟩
  confirmations := []
  preparedSignature := none
  userOperation := some {
    transactionHash := none
    sender := ⟨1⟩
    hash := "0x00"
    nonce := "3"
    initCode := none
    callData := [0x7b, 0xb3, 0x74, 0x28]
    callGas := "43960"
    verificationGas := "64007"
    preVerificationGas := "9325944"
    maxFee := "110447"
    maxPriorityFee := "110000"
    paymaster := none
    paymasterData := none
    signature := none
    entryPoint := EntryPoint.v07.address }

/-- The same record for the first generation loses nothing. -/
theorem keptBy_clipped_v06 :
    ∃ s, SafeOperation.ofRecord { clipped with entryPoint := EntryPoint.v06.address } 1 = .ok s
      ∧ KeptBy { clipped with entryPoint := EntryPoint.v06.address } s := by
  obtain ⟨s, hs⟩ : ∃ s, SafeOperation.ofRecord
      { clipped with entryPoint := EntryPoint.v06.address } 1 = .ok s := ⟨_, rfl⟩
  obtain ⟨generation, hentry, -, -, -, hkept⟩ := keptBy_ofRecord_iff hs
  obtain rfl : generation = .v06 := (Except.ok.inj hentry).symm
  exact ⟨s, hs, hkept.mpr ⟨Or.inl rfl, Or.inl rfl⟩⟩

/-- The record is taken up, without code and without a paymaster. -/
theorem not_keptBy_clipped :
    ∃ s, SafeOperation.ofRecord clipped 1 = .ok s ∧ ¬ clipped.KeptBy s
      ∧ s.operation.initCode = [] ∧ s.signedPaymaster = some []
      ∧ s.submittedPaymaster = some [] := by
  refine ⟨_, rfl, fun hkept => ?_, rfl, rfl, rfl⟩
  have hcode := congrArg List.length hkept.initCode
  exact absurd hcode (by decide)

end SafeOperationRecord

end SafeOps
