import SafeOps.Proofs.SafeOperation.Binding
import SafeOps.Proofs.SafeOperation.Estimating

/-!
# `SafeOps.Proofs.SafeOperation.Repacking`: a paymaster goes into packed form and back

An estimation may know nothing but a packed paymaster. An operation of the second generation takes
it apart, and what it shows in packed form afterwards is the same bytes, if they have a header, and
nothing otherwise (`paymasterAndData_withPaymaster`).

An operation that has a paymaster may be given its own packed form. Limits and data that were
missing are there then, with zero in the limits and nothing in the data. This is how they were
counted before, so no hash changes; the fields themselves are as before exactly if none was missing
(`unpack_pack_eq_iff`). `repacked_run` has both directions for all operations.
-/

set_option autoImplicit false

namespace SafeOps

/-- The estimation that knows a packed paymaster and nothing else. -/
def Estimation.ofPacked (packed : Bytes) : Estimation :=
  { paymasterAndData := some packed }

namespace Paymaster

/-- A paymaster has all its fields. -/
structure Full (p : Paymaster) : Prop where
  address : p.address ≠ none
  verificationGas : p.verificationGas ≠ none
  postOpGas : p.postOpGas ≠ none
  data : p.data ≠ none

/-- Packing and taking apart gives back the fields exactly if they are all there. -/
theorem unpack_pack_eq_iff {p : Paymaster} (haddress : p.address ≠ none)
    (hverification : ∀ gas ∈ p.verificationGas, gas.toNat < limit 128)
    (hpostOp : ∀ gas ∈ p.postOpGas, gas.toNat < limit 128) : unpack p.pack = p ↔ p.Full := by
  obtain ⟨address, hsome⟩ := Option.ne_none_iff_exists'.mp haddress
  rw [unpack_pack hsome hverification hpostOp]
  have hgetD : ∀ {α : Type} (x : Option α) (d : α), some (x.getD d) = x ↔ x ≠ none := by
    intro α x d
    cases x <;> simp
  obtain ⟨address?, verificationGas, postOpGas, data⟩ := p
  simp only [Paymaster.mk.injEq, hgetD]
  constructor
  · rintro ⟨-, hverificationGas, hpostOpGas, hdata⟩
    exact ⟨haddress, hverificationGas, hpostOpGas, hdata⟩
  · rintro ⟨-, hverificationGas, hpostOpGas, hdata⟩
    exact ⟨hsome.symm, hverificationGas, hpostOpGas, hdata⟩

end Paymaster

namespace SafeOperation

variable {s : SafeOperation} {factory : Option Address} {data : Option Bytes} {p : Paymaster}

/-- The operation with another paymaster. -/
def withPaymaster (s : SafeOperation) (factory : Option Address) (data : Option Bytes)
    (p : Paymaster) : SafeOperation :=
  { s with operation := { s.operation with shape := .v07 factory data p } }

/-- A packed paymaster is always taken, and taken apart. -/
theorem addEstimation_ofPacked (hfits : s.operation.Fits) (hsigned : s.signatures.entries = [])
    (hshape : s.operation.shape = .v07 factory data p) (packed : Bytes) :
    s.addEstimation (.ofPacked packed)
      = (.ok (), s.withPaymaster factory data (Paymaster.unpack packed)) := by
  have happlied : s.operation.applied (.ofPacked packed)
      = { s.operation with shape := .v07 factory data (Paymaster.unpack packed) } := by
    simp only [UserOperation.applied, hshape]
    rfl
  have hfits' : (s.operation.applied (.ofPacked packed)).Fits := by
    rw [happlied]
    exact (UserOperation.fits_iff rfl).mpr
      ⟨((UserOperation.fits_iff hshape).mp hfits).1, Paymaster.unpack_fits packed⟩
  rw [addEstimation_of_fits hsigned hfits', happlied]
  rfl

/-- What an operation shows of a packed form that was taken apart. -/
theorem paymasterAndData_withPaymaster (s : SafeOperation) (factory : Option Address)
    (data : Option Bytes) (packed : Bytes) :
    (s.withPaymaster factory data (Paymaster.unpack packed)).operation.paymasterAndData
      = if Paymaster.headerSize ≤ packed.length then packed else [] := by
  show (Paymaster.unpack packed).pack = _
  split
  · rename_i hlong
    exact Paymaster.pack_unpack hlong
  · rename_i hshort
    rw [Paymaster.unpack_of_lt (Nat.not_le.mp hshort)]
    rfl

/-- A paymaster with the same packed form makes no difference to what is signed. -/
theorem signedFields_withPaymaster (hshape : s.operation.shape = .v07 factory data p)
    {p' : Paymaster} (h : p'.pack = p.pack) :
    (s.withPaymaster factory data p').signedFields = s.signedFields := by
  have hinitCode : (s.withPaymaster factory data p').operation.initCode = s.operation.initCode := by
    rw [UserOperation.initCode, UserOperation.initCode, hshape]
    cases factory <;> rfl
  have hpaymaster : (s.withPaymaster factory data p').operation.paymasterAndData
      = s.operation.paymasterAndData := by
    rw [UserOperation.paymasterAndData, UserOperation.paymasterAndData, hshape]
    exact h
  have hgeneration :
      (s.withPaymaster factory data p').operation.generation = s.operation.generation := by
    rw [UserOperation.generation, UserOperation.generation, hshape]
    rfl
  simp only [signedFields, hinitCode, hpaymaster, hgeneration]
  rfl

/-- Let an operation of the second generation be made and changed in any way, and let nobody have
signed it. It takes every packed paymaster that is put in alone, and then it shows the bytes that
were put in, or none if there were less than a header. If it has a paymaster, it takes its own
packed form as well. Nothing but the fields of the paymaster changes, and neither the packed form
nor a hash; the fields are as before exactly if all four were there. -/
theorem repacked_run {o : Origin} {s₀ : SafeOperation} (h : o.make = .ok s₀)
    (changes : List Change) (hsigned : (s₀.run changes).signatures.entries = [])
    (hshape : (s₀.run changes).operation.shape = .v07 factory data p) :
    (∀ packed, ∃ s, (s₀.run changes).addEstimation (.ofPacked packed) = (.ok (), s)
      ∧ s.operation.paymasterAndData
        = if Paymaster.headerSize ≤ packed.length then packed else [])
    ∧ (p.address ≠ none → ∃ p',
      (s₀.run changes).addEstimation (.ofPacked (s₀.run changes).operation.paymasterAndData)
        = (.ok (), (s₀.run changes).withPaymaster factory data p')
      ∧ ((s₀.run changes).withPaymaster factory data p').operation.paymasterAndData
        = (s₀.run changes).operation.paymasterAndData
      ∧ ((s₀.run changes).withPaymaster factory data p').hash = (s₀.run changes).hash
      ∧ ((s₀.run changes).withPaymaster factory data p').entryPointHash
        = (s₀.run changes).entryPointHash
      ∧ (p' = p ↔ p.Full)) := by
  have hfits : (s₀.run changes).operation.Fits := (wellFormed_run h changes).fits
  constructor
  · intro packed
    exact ⟨_, addEstimation_ofPacked hfits hsigned hshape packed,
      paymasterAndData_withPaymaster _ _ _ _⟩
  · intro haddress
    have hown : (s₀.run changes).operation.paymasterAndData = p.pack :=
      congrArg Shape.paymasterAndData hshape
    obtain ⟨-, hverification, hpostOp⟩ := (UserOperation.fits_iff hshape).mp hfits
    have hfields := signedFields_withPaymaster hshape p.pack_unpack_pack
    refine ⟨Paymaster.unpack p.pack, ?_, ?_, hash_eq_of_signedFields hfields,
      entryPointHash_eq_of_signedFields hfields,
      Paymaster.unpack_pack_eq_iff haddress hverification hpostOp⟩
    · rw [hown]
      exact addEstimation_ofPacked hfits hsigned hshape p.pack
    · rw [hown]
      exact p.pack_unpack_pack

/-- A draft that got the address of a paymaster and nothing else: its own packed form brings the
other fields along, and the hash stays. -/
theorem repacked_run_sample :
    ∃ (s₀ s : SafeOperation) (factory : Option Address) (data : Option Bytes) (p p' : Paymaster),
      (Origin.draft ⟨⟨1⟩, 3, [], none, .placeholder⟩ ⟨1, ⟨9⟩, EntryPoint.v07.address, 0, 0⟩).make
        = .ok s₀
      ∧ s = s₀.run [.estimate { paymaster := some ⟨5⟩ }]
      ∧ s.operation.shape = .v07 factory data p
      ∧ s.addEstimation (.ofPacked s.operation.paymasterAndData)
        = (.ok (), s.withPaymaster factory data p')
      ∧ (s.withPaymaster factory data p').hash = s.hash ∧ p' ≠ p := by
  let o : Origin :=
    .draft ⟨⟨1⟩, 3, [], none, .placeholder⟩ ⟨1, ⟨9⟩, EntryPoint.v07.address, 0, 0⟩
  obtain ⟨s₀, hmake, hsigned, hshape⟩ : ∃ s₀, o.make = .ok s₀
      ∧ (s₀.run [.estimate { paymaster := some ⟨5⟩ }]).signatures.entries = []
      ∧ (s₀.run [.estimate { paymaster := some ⟨5⟩ }]).operation.shape
        = .v07 none none { address := some ⟨5⟩ } := ⟨_, rfl, rfl, rfl⟩
  obtain ⟨p', htaken, -, hhash, -, hsame⟩ := (repacked_run hmake _ hsigned hshape).2 nofun
  exact ⟨s₀, _, _, _, _, p', hmake, rfl, hshape, htaken, hhash,
    fun heq => (hsame.mp heq).verificationGas rfl⟩

end SafeOperation

end SafeOps
