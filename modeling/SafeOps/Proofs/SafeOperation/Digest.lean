import SafeOps.Proofs.Program
import SafeOps.Proofs.SafeOperation.Invariant
import SafeOps.Proofs.UserOperation.Payload
import SafeOps.Signer
import SafeOps.Signing.LocalKey

/-!
# `SafeOps.Proofs.SafeOperation.Digest`: one digest for every kind of signer

A passkey is given the hash of an operation to sign. A key is given a message, and hashes it
by its own rules. Both are worth something to the account only if they end at the same hash.

For an operation whose fields fit and whose span of time is sound they do
(`signingHash_message`). Operations are such when they are made, and stay so whatever changes
are made or refused (`wellFormed_run`), which gives `digest_run` for all of them.
-/

set_option autoImplicit false

namespace SafeOps

/-- If the question asks for a signature then for one of this hash. -/
def Query.SignsOnly (h : Hash) : Query → Prop
  | .typedSignature _ data => data.signingHash = .ok h
  | .assertion challenge => challenge = h
  | _ => True

namespace Signer

/-- A key is asked to sign the same message through every method that is tried. -/
theorem asks_signTypedData {h : Hash} (address : Address) {data : TypedData}
    (hdata : data.signingHash = .ok h) (methods : List SigningMethod) :
    (signTypedData address data methods).run.Asks (Query.SignsOnly h) := by
  induction methods with
  | nil => exact trivial
  | cons method rest ih =>
    refine Attempt.asks_bind (Attempt.asks_always (Program.asks_query hdata)) fun answer => ?_
    rcases answer with error | signature
    · cases error with
      -- Only a method that the key lacks leads on to those that are left.
      | unsupported _ =>
        exact Attempt.asks_bind (Attempt.asks_always (Program.asks_query trivial)) fun _ => ih
      | _ => exact trivial
    · exact trivial

/-- A passkey is asked to sign the hash it is given. -/
theorem asks_signHash (sharedSigner : Address) (h : Hash) :
    (signHash sharedSigner h).run.Asks (Query.SignsOnly h) :=
  Attempt.asks_bind (Program.asks_query rfl) fun _ => trivial

/-- Whatever the owner is, only the hash of the operation is ever signed, if a wallet can read
the message of the operation and finds that hash. -/
theorem asks_sign {op : SafeOperation} {data : TypedData} (htyped : op.typedData = .ok data)
    (hdata : data.signingHash = .ok op.hash) (s : Signer) (method : SigningMethod)
    (sharedSigner : Address) :
    (s.sign op method sharedSigner).run.Asks (Query.SignsOnly op.hash) := by
  cases s with
  | key address =>
    have hsign : (key address).sign op method sharedSigner
        = signTypedData address data method.strategies >>= fun signature =>
            pure (.ofKey address signature) := by
      rw [sign, htyped]
      rfl
    rw [hsign]
    exact Attempt.asks_bind (asks_signTypedData address hdata method.strategies) fun _ => trivial
  | passkey credential =>
    exact Attempt.asks_bind (Attempt.asks_always (Program.asks_query trivial)) fun _ =>
      asks_signHash sharedSigner op.hash

end Signer

namespace SafeOperation

/-- A well-formed operation has a message, and what wallets work out from it is the hash. -/
theorem typedData_of_wellFormed {s : SafeOperation} (h : s.WellFormed) :
    s.typedData = .ok (s.operation.message s.context)
      ∧ (s.operation.message s.context).signingHash = .ok s.hash := by
  constructor
  · rw [typedData, UserOperation.ofJson?_payload]
  · exact UserOperation.signingHash_message h.fits h.sound

/-- Every operation that was made has a message. -/
theorem exists_typedData {o : Origin} {s : SafeOperation} (h : o.make = .ok s) :
    ∃ data, s.typedData = .ok data :=
  ⟨_, (typedData_of_wellFormed (wellFormed_run h [])).1⟩

/-- However an operation was made and changed, it has a message, and the hash that the message
has by the rules of structured messages is the one that is worked out from words. So a key in
memory signs it, and every question to a key or a passkey is for a signature of it. -/
theorem digest_run {o : Origin} {s₀ : SafeOperation} (h : o.make = .ok s₀)
    (changes : List Change) :
    ∃ data, (s₀.run changes).typedData = .ok data
      ∧ data.signingHash = .ok (s₀.run changes).hash
      ∧ (∀ k : LocalKey, k.signTypedData data = k.signHash (s₀.run changes).hash)
      ∧ ∀ (signer : Signer) (method : SigningMethod) (sharedSigner : Address),
          (signer.sign (s₀.run changes) method sharedSigner).run.Asks
            (Query.SignsOnly (s₀.run changes).hash) := by
  obtain ⟨htyped, hdata⟩ := typedData_of_wellFormed (wellFormed_run h changes)
  refine ⟨_, htyped, hdata, fun k => ?_, fun signer method sharedSigner => ?_⟩
  · rw [LocalKey.signTypedData, hdata]
  · exact Signer.asks_sign htyped hdata signer method sharedSigner

/-- A record with confirmations that is signed anew after an estimation. -/
theorem digest_run_sample :
    ∃ s₀, Origin.sample.make = .ok s₀
      ∧ ∃ data, (s₀.run [.clear, .estimate { callGas := some 7 }]).typedData = .ok data
        ∧ data.signingHash = .ok (s₀.run [.clear, .estimate { callGas := some 7 }]).hash := by
  obtain ⟨s₀, hmake⟩ : ∃ s₀, Origin.sample.make = .ok s₀ := ⟨_, rfl⟩
  obtain ⟨data, htyped, hdata, -, -⟩ :=
    digest_run hmake [.clear, .estimate { callGas := some 7 }]
  exact ⟨s₀, hmake, data, htyped, hdata⟩

end SafeOperation

end SafeOps
