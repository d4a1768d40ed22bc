import SafeOps.Proofs.SafeOperation.Invariant
import SafeOps.Proofs.UserOperation.Codec

/-!
# `SafeOps.Proofs.SafeOperation.Rereading`: operations survive the way over the wire

An operation goes to bundlers and to other owners as JSON in a bundler's shape, and whoever gets
it makes an operation of it again. Nothing is lost on the way but the signatures. The shape is
read back as it was written (`UserOperation.ofJson?_of_perm`), and it is taken again because
every operation is well-formed (`ofUserOperation_toSignedWith`): its span of time, its
generation and its fields pass the checks they have passed before.

`reread_run` puts both together for every operation, however it was made and changed.
-/

set_option autoImplicit false

namespace SafeOps.SafeOperation

/-- With any signatures an operation is taken again as what it was without them. -/
theorem ofUserOperation_toSignedWith {s : SafeOperation} (h : s.WellFormed)
    (signatures : SignatureSet) :
    ofUserOperation (s.toSignedWith signatures) s.context = .ok s.clearSignatures := by
  have hoperation : (s.toSignedWith signatures).withSignature [] = s.operation := by
    rw [← h.unsigned]
    rfl
  refine ofUserOperation_eq_ok_iff.mpr ⟨h.sound, h.generation, h.fits, ?_⟩
  rw [hoperation]
  rfl

/-- An operation of a bundler's shape is read back from its text, and from an object with its
members in any order. An operation that was made and changed is taken again from the shape that
is read back, without its signatures and with the same hashes. -/
theorem reread_run :
    (∀ u : UserOperation,
      (Json.read u.toJson.render).bind UserOperation.ofJson? = some u
        ∧ ∀ members, members.Perm u.members → UserOperation.ofJson? (.obj members) = some u)
    ∧ ∀ (o : Origin) (s₀ : SafeOperation), o.make = .ok s₀ → ∀ changes : List Change,
      ∃ u again, UserOperation.ofJson? (s₀.run changes).toSigned.toJson = some u
        ∧ ofUserOperation u (s₀.run changes).context = .ok again
        ∧ again = { s₀.run changes with signatures := .empty }
        ∧ again.hash = (s₀.run changes).hash
        ∧ again.entryPointHash = (s₀.run changes).entryPointHash := by
  constructor
  · intro u
    refine ⟨?_, fun members h => UserOperation.ofJson?_of_perm h⟩
    rw [u.read_render_toJson, Option.bind_some]
    exact UserOperation.ofJson?_of_perm (List.Perm.refl u.members)
  · intro o s₀ h changes
    have hwell : (s₀.run changes).WellFormed := wellFormed_run h changes
    exact ⟨(s₀.run changes).toSigned, (s₀.run changes).clearSignatures,
      UserOperation.ofJson?_of_perm (List.Perm.refl _), ofUserOperation_toSignedWith hwell _,
      rfl, rfl, rfl⟩

/-- An operation with its members in reverse, and a record with two confirmations that are
dropped before an estimation is taken and an owner signs again. -/
theorem reread_run_sample :
    ∃ s₀, Origin.sample.make = .ok s₀
      ∧ UserOperation.ofJson? (.obj s₀.operation.members.reverse) = some s₀.operation
      ∧ ∃ s u again,
        s = s₀.run [.clear, .estimate { callGas := some 7 }, .sign (.ofContract ⟨2⟩ [0x01])]
        ∧ UserOperation.ofJson? s.toSigned.toJson = some u
        ∧ ofUserOperation u s.context = .ok again ∧ again = { s with signatures := .empty }
        ∧ again.hash = s.hash ∧ again.entryPointHash = s.entryPointHash := by
  obtain ⟨s₀, h⟩ : ∃ s₀, Origin.sample.make = .ok s₀ := ⟨_, rfl⟩
  obtain ⟨u, again, hread⟩ := reread_run.2 Origin.sample s₀ h
    [.clear, .estimate { callGas := some 7 }, .sign (.ofContract ⟨2⟩ [0x01])]
  exact ⟨s₀, h, (reread_run.1 s₀.operation).2 _ (List.reverse_perm _), _, u, again, rfl, hread⟩

end SafeOps.SafeOperation
