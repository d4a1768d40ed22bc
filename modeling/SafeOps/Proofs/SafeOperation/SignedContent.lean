import Mathlib.Data.List.Induction
import SafeOps.Proofs.SafeOperation.Construction
import SafeOps.Proofs.Signature.Collection

/-!
# `SafeOps.Proofs.SafeOperation.SignedContent`: signatures and what they are for

Owners sign a hash of an operation and its context. A signature is worth nothing once either
of them is another. While an operation carries signatures no estimation can change it, so this
never happens: `signedSince_of_mem` finds, for every signature an operation carries, the
moment in its history at which that signature was added, and says that the hashes have been
the same ever since.

The history starts at the base of the operation and has the confirmations of a record in it.
The moment is the last one at which the owner's signature changed: what comes after it neither
drops the signature nor puts another one of the same owner in its place (`Change.Unsigns`).
-/

set_option autoImplicit false

namespace SafeOps.SafeOperation

/-- A change that drops the signature of an owner or puts another one in its place. -/
def Change.Unsigns (owner : Address) : Change → Prop
  | .estimate _ => False
  | .sign signature => signature.signer = owner
  | .clear => True

/-- An operation that carries a signature owes it to the last change of that owner's signature,
and operation and context are as they were right after it. -/
theorem content_of_mem {base : SafeOperation} (hbase : base.signatures = .empty)
    (history : List Change) {signature : OwnerSignature}
    (h : signature ∈ (base.run history).signatures.entries) :
    ∃ before after, history = before ++ .sign signature :: after
      ∧ (∀ c ∈ after, ¬ c.Unsigns signature.signer)
      ∧ (base.run history).operation = (base.run (before ++ [.sign signature])).operation
      ∧ (base.run history).context = (base.run (before ++ [.sign signature])).context := by
  induction history using List.reverseRecOn with
  | nil =>
    rw [run_nil, hbase] at h
    cases h
  | append_singleton history c ih =>
    rw [run_concat] at h ⊢
    -- A change that keeps the signature and the content prolongs the history after it.
    have hprolong : signature ∈ (base.run history).signatures.entries →
        ¬ c.Unsigns signature.signer →
        ((base.run history).step c).operation = (base.run history).operation →
        ∃ before after, history ++ [c] = before ++ .sign signature :: after
          ∧ (∀ c ∈ after, ¬ c.Unsigns signature.signer)
          ∧ ((base.run history).step c).operation
            = (base.run (before ++ [.sign signature])).operation
          ∧ ((base.run history).step c).context
            = (base.run (before ++ [.sign signature])).context := by
      intro hmem hkeeps hoperation
      obtain ⟨before, after, rfl, hafter, hop, hcontext⟩ := ih hmem
      refine ⟨before, after ++ [c], by simp, ?_, hoperation.trans hop, ?_⟩
      · intro c' hc'
        rcases List.mem_append.mp hc' with hc' | hc'
        · exact hafter c' hc'
        · rw [List.mem_singleton.mp hc']
          exact hkeeps
      · rw [context_step]
        exact hcontext
    cases c with
    | estimate e =>
      rw [signatures_step_estimate] at h
      refine hprolong h (fun hunsigns => hunsigns) ?_
      rw [step_estimate_of_mem h]
    | sign added =>
      rcases SignatureSet.mem_add_iff.mp h with rfl | ⟨hmem, hne⟩
      · refine ⟨history, [], rfl, fun _ hc => absurd hc List.not_mem_nil, ?_, ?_⟩
        · rw [run_concat]
        · rw [run_concat]
      · exact hprolong hmem (fun heq => hne heq.symm) rfl
    | clear => cases h

/-- An operation `s` that was made from `o` and changed got a signature at one moment of its
history, and nothing that is signed has changed since. -/
structure SignedSince (o : Origin) (changes : List Change) (s : SafeOperation)
    (signature : OwnerSignature) (base : SafeOperation) (before after : List Change) : Prop where
  base_eq : o.base = .ok base
  history : o.confirmations ++ changes = before ++ .sign signature :: after
  /-- The signature is the last one of its owner. -/
  current : ∀ c ∈ after, ¬ c.Unsigns signature.signer
  hash : s.hash = (base.run (before ++ [.sign signature])).hash
  entryPointHash : s.entryPointHash = (base.run (before ++ [.sign signature])).entryPointHash
  operation : s.operation = (base.run (before ++ [.sign signature])).operation
  context : s.context = (base.run (before ++ [.sign signature])).context

/-- For every signature of an operation, however the operation was made and changed, both hashes
are what they were right after that signature was added. So is what they are made from. -/
theorem signedSince_of_mem {o : Origin} {s₀ : SafeOperation} (h : o.make = .ok s₀)
    (changes : List Change) {signature : OwnerSignature}
    (hmem : signature ∈ (s₀.run changes).signatures.entries) :
    ∃ base before after, SignedSince o changes (s₀.run changes) signature base before after := by
  obtain ⟨base, hbase, rfl⟩ := Origin.make_eq_ok h
  obtain ⟨-, -, -, -, hunsigned⟩ := Origin.base_eq_ok hbase
  rw [← run_append] at hmem ⊢
  obtain ⟨before, after, hhistory, hcurrent, hop, hcontext⟩ := content_of_mem hunsigned _ hmem
  exact ⟨base, before, after, {
    base_eq := hbase
    history := hhistory
    current := hcurrent
    hash := by simp only [SafeOperation.hash, hop, hcontext]
    entryPointHash := by simp only [SafeOperation.entryPointHash, hop, hcontext]
    operation := hop
    context := hcontext }⟩

/-- A record with two confirmations, of which one is replaced while estimations are refused. -/
theorem signedSince_of_mem_sample :
    ∃ s₀, Origin.sample.make = .ok s₀
      ∧ .ofContract ⟨2⟩ [0x01, 0x02] ∈ (s₀.run [.estimate { callGas := some 7 },
          .sign (.ofContract ⟨3⟩ []), .estimate {}]).signatures.entries
      ∧ ∃ base before after, SignedSince Origin.sample
          [.estimate { callGas := some 7 }, .sign (.ofContract ⟨3⟩ []), .estimate {}]
          (s₀.run [.estimate { callGas := some 7 }, .sign (.ofContract ⟨3⟩ []), .estimate {}])
          (.ofContract ⟨2⟩ [0x01, 0x02]) base before after :=
  ⟨_, rfl, List.mem_cons_self, signedSince_of_mem rfl _ List.mem_cons_self⟩

end SafeOps.SafeOperation
