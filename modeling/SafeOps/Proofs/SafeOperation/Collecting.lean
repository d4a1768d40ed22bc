import SafeOps.Proofs.SafeOperation.Construction
import SafeOps.Proofs.Signature.Collection

/-!
# `SafeOps.Proofs.SafeOperation.Collecting`: signatures arrive in any order

The owners of an account sign one after another, in an order nobody arranges, and some of them
sign again. What comes of it depends on nothing but the last signature of each owner.

`Collected` says what an operation is after signatures were added: what is signed is the same,
and of each owner there is the last signature that was added, or else the one there was before.
An operation is known by these, so two histories with the same last signatures end in the same
operation, and the bytes that are made from its signatures are the same
(`run_sign_eq_of_latest`).
-/

set_option autoImplicit false

namespace SafeOps.SafeOperation

open SignatureSet (latest latest_nil latest_cons)

/-- An operation `t` that came about by adding signatures to `s`. -/
structure Collected (s t : SafeOperation) (signatures : List OwnerSignature) : Prop where
  operation : t.operation = s.operation
  context : t.context = s.context
  /-- Of each owner there is one signature or none. -/
  one_each : ∀ owner, t.signatures.entries.filter (fun u => u.signer = owner)
    = ((latest owner signatures).or (s.signatures.get? owner)).toList

theorem collected_run_sign (s : SafeOperation) (signatures : List OwnerSignature) :
    Collected s (s.run (signatures.map .sign)) signatures := by
  rw [run_sign]
  refine ⟨rfl, rfl, fun owner => ?_⟩
  rw [SignatureSet.filter_signer_entries, SignatureSet.get?_foldl_add]

/-- Of the signatures that were added only the last ones of each owner count. -/
theorem run_sign_congr (s : SafeOperation) {signatures signatures' : List OwnerSignature}
    (h : ∀ owner, latest owner signatures = latest owner signatures') :
    s.run (signatures.map .sign) = s.run (signatures'.map .sign) := by
  have hset : signatures.foldl SignatureSet.add s.signatures
      = signatures'.foldl SignatureSet.add s.signatures := by
    refine SignatureSet.ext_of_get? fun owner => ?_
    rw [SignatureSet.get?_foldl_add, SignatureSet.get?_foldl_add, h]
  rw [run_sign, run_sign, hset]

theorem addSignature_comm (s : SafeOperation) {a b : OwnerSignature} (h : a.signer ≠ b.signer) :
    (s.addSignature a).addSignature b = (s.addSignature b).addSignature a := by
  -- No owner has both signatures, so the last one of an owner is the only one.
  have hlatest : ∀ owner, latest owner [a, b] = latest owner [b, a] := by
    intro owner
    rw [latest_cons, latest_cons, latest_cons, latest_cons]
    by_cases ha : a.signer = owner
    · have hb : ¬ b.signer = owner := fun hb => h (ha.trans hb.symm)
      simp [ha, hb]
    · simp [ha]
  exact run_sign_congr s hlatest

/-- Two lists of signatures with the same last signature of each owner, added to an operation,
give the same operation, the same encoded signatures and the same operation for the bundler.
The set holds one signature of each owner, the last one. Signatures of different owners may be
added in any order. -/
theorem run_sign_eq_of_latest (s : SafeOperation) :
    (∀ signatures signatures' : List OwnerSignature,
      (∀ owner, latest owner signatures = latest owner signatures') →
        s.run (signatures.map .sign) = s.run (signatures'.map .sign)
        ∧ (s.run (signatures.map .sign)).signatures.encode
          = (s.run (signatures'.map .sign)).signatures.encode
        ∧ (s.run (signatures.map .sign)).toSigned = (s.run (signatures'.map .sign)).toSigned)
    ∧ (∀ signatures, Collected s (s.run (signatures.map .sign)) signatures)
    ∧ ∀ a b : OwnerSignature, a.signer ≠ b.signer →
        (s.addSignature a).addSignature b = (s.addSignature b).addSignature a := by
  refine ⟨fun signatures signatures' h => ?_, collected_run_sign s, fun a b h =>
    addSignature_comm s h⟩
  have hrun := run_sign_congr s h
  exact ⟨hrun, congrArg (fun t => t.signatures.encode) hrun, congrArg toSigned hrun⟩

/-- A contract and a key sign an operation that has two signatures already, one of them of the
key. The key signs twice. -/
theorem run_sign_eq_of_latest_sample :
    ∃ s₀ first again other, Origin.sample.make = .ok s₀
      ∧ first = .ofContract ⟨3⟩ [0x01] ∧ again = .ofBytes ⟨3⟩ (List.replicate 65 0x02)
      ∧ other = .ofContract ⟨4⟩ [0x03]
      ∧ (∀ owner, latest owner [first, other, again] = latest owner [again, other])
      ∧ s₀.run [.sign first, .sign other, .sign again] = s₀.run [.sign again, .sign other] := by
  obtain ⟨s₀, hmake⟩ : ∃ s₀, Origin.sample.make = .ok s₀ := ⟨_, rfl⟩
  have hlatest : ∀ first again other : OwnerSignature, first.signer = ⟨3⟩ → again.signer = ⟨3⟩ →
      other.signer = ⟨4⟩ →
        ∀ owner, latest owner [first, other, again] = latest owner [again, other] := by
    intro first again other hfirst hagain hother owner
    simp only [latest_cons, latest_nil, hfirst, hagain, hother]
    by_cases hkey : (⟨3⟩ : Address) = owner
    · subst hkey
      rfl
    · simp only [if_neg hkey, Option.or_none, Option.none_or]
  have hsame := hlatest (.ofContract ⟨3⟩ [0x01]) (.ofBytes ⟨3⟩ (List.replicate 65 0x02))
    (.ofContract ⟨4⟩ [0x03]) rfl rfl rfl
  exact ⟨s₀, _, _, _, hmake, rfl, rfl, rfl, hsame,
    ((run_sign_eq_of_latest s₀).1 _ _ hsame).1⟩

end SafeOps.SafeOperation
