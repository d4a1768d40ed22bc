import SafeOps.Proofs.Node
import SafeOps.Proofs.SafeOperation.Digest
import SafeOps.Proofs.Signing.Passkey

/-!
# `SafeOps.Proofs.Signer`: what a signer is asked, and what comes of it

A key is asked through one method after the other until one is supported, and a passkey is asked
once. `Tries` is how the first goes, and `ends_signTypedData_iff` says that it goes in no other
way. `Consulted` is what both have in common: the signer is asked at least once, each question is
for a signature of one hash, and a signature that comes out is the last answer, in the name of the
owner (`consulted_sign`).

A signer is asked by nobody else. A node might, since it may do anything to find its answers;
`Node.SparesSigner` says that it does not, which holds of both kinds of nodes.
-/

set_option autoImplicit false

namespace SafeOps

/-- A question to the owner's key or passkey. -/
def Query.ForSigner : Query → Prop
  | .typedSignature _ _ => True
  | .assertion _ => True
  | _ => False

theorem Query.signsOnly_of_not_forSigner {h : Hash} {q : Query} (hq : ¬ q.ForSigner) :
    q.SignsOnly h := by
  cases q with
  | typedSignature method data => exact absurd trivial hq
  | assertion challenge => exact absurd trivial hq
  | _ => trivial

/-! ### Nodes -/

/-- The node finds its answers without the signer. -/
def Node.SparesSigner (node : Node) : Prop :=
  ∀ question, (node.read question).run.Asks fun q => ¬ q.ForSigner

theorem Node.sparesSigner_external : external.SparesSigner :=
  fun _ => Program.asks_query id

theorem Node.sparesSigner_remote (service : Endpoint) : (remote service).SparesSigner :=
  asks_remote (fun _ _ _ => id) fun _ _ _ => id

namespace Signer

/-! ### Keys -/

section Key

variable {address : Address} {data : TypedData}

/-- How a key is asked through methods in their order. Only the answer that a method is not
supported leads on to the next one; any other answer is the last one. -/
inductive Tries (address : Address) (data : TypedData) :
    List SigningMethod → List Exchange → Except SignerError Secp256k1.Signature → Prop
  /-- No method is left. -/
  | exhausted : Tries address data [] [] (.error (.noMethod address))
  | lacking {method lacked : SigningMethod} {rest : List SigningMethod} {t : List Exchange}
      {r : Except SignerError Secp256k1.Signature} :
      Tries address data rest t r →
      Tries address data (method :: rest)
        (⟨.typedSignature method data, .error (.unsupported lacked)⟩ :: t) r
  | answered {method : SigningMethod} {rest : List SigningMethod}
      {answer : Except SignerError Secp256k1.Signature} :
      (∀ lacked, answer ≠ .error (.unsupported lacked)) →
      Tries address data (method :: rest) [⟨.typedSignature method data, answer⟩] answer

/-- Asking a key through methods goes in this way, and in no other. -/
theorem ends_signTypedData_iff {methods : List SigningMethod} {t : List Exchange}
    {r : Except SignerError Secp256k1.Signature} :
    (signTypedData address data methods).Ends t r ↔ Tries address data methods t r := by
  induction methods generalizing t with
  | nil =>
    refine Program.runs_done_iff.trans ⟨?_, ?_⟩
    · rintro ⟨rfl, rfl⟩
      exact .exhausted
    · rintro ⟨⟩
      exact ⟨rfl, rfl⟩
  | cons method rest ih =>
    rw [signTypedData, Attempt.ends_query_bind_iff id]
    constructor
    · rintro ⟨answer, t, rfl, hnext⟩
      rcases answer with error | signature
      · cases error with
        | unsupported lacked =>
          exact .lacking (ih.mp (Attempt.ends_tell_bind_iff.mp hnext))
        | _ =>
          obtain ⟨rfl, rfl⟩ := Program.runs_done_iff.mp hnext
          exact .answered nofun
      · obtain ⟨rfl, rfl⟩ := Program.runs_done_iff.mp hnext
        exact .answered nofun
    · intro h
      cases h with
      | @lacking _ lacked _ t _ hrest =>
        exact ⟨.error (.unsupported lacked), t, rfl,
          Attempt.ends_tell_bind_iff.mpr (ih.mpr hrest)⟩
      | answered hanswer =>
        refine ⟨r, [], rfl, ?_⟩
        rcases r with error | signature
        · cases error with
          | unsupported lacked => exact absurd rfl (hanswer lacked)
          | _ => exact .done _
        · exact .done _

/-- Each question to a key is for a signature of the message, through one of the methods. -/
theorem Tries.question {methods : List SigningMethod} {t : List Exchange}
    {r : Except SignerError Secp256k1.Signature} (h : Tries address data methods t r) :
    ∀ x ∈ t, ∃ method ∈ methods, x.1 = .typedSignature method data := by
  induction h with
  | exhausted => exact fun x hx => absurd hx List.not_mem_nil
  | @lacking method _ _ _ _ _ ih =>
    intro x hx
    rcases List.mem_cons.mp hx with rfl | hx
    · exact ⟨method, List.mem_cons_self, rfl⟩
    · obtain ⟨later, hlater, hquestion⟩ := ih x hx
      exact ⟨later, List.mem_cons_of_mem method hlater, hquestion⟩
  | @answered method _ _ _ =>
    intro x hx
    obtain rfl := List.mem_singleton.mp hx
    exact ⟨method, List.mem_cons_self, rfl⟩

/-- A key is asked at least once if there is a method. -/
theorem Tries.ne_nil {method : SigningMethod} {rest : List SigningMethod} {t : List Exchange}
    {r : Except SignerError Secp256k1.Signature}
    (h : Tries address data (method :: rest) t r) : t ≠ [] := by
  cases h with
  | lacking => exact List.cons_ne_nil _ _
  | answered => exact List.cons_ne_nil _ _

/-- A signature is the last answer of the key. -/
theorem Tries.last {methods : List SigningMethod} {t : List Exchange}
    {r : Except SignerError Secp256k1.Signature} (h : Tries address data methods t r)
    {signature : Secp256k1.Signature} (hr : r = .ok signature) :
    ∃ before method, t = before ++ [⟨.typedSignature method data, .ok signature⟩] := by
  induction h with
  | exhausted => cases hr
  | lacking _ ih =>
    obtain ⟨before, method, rfl⟩ := ih hr
    exact ⟨_ :: before, method, rfl⟩
  | @answered method _ _ _ =>
    subst hr
    exact ⟨[], method, rfl⟩

end Key

/-! ### Every signer -/

/-- The signer's answer in an exchange, to a question for a signature of a hash, is turned into
this signature. A key signs in its own name, and a passkey in that of the shared signer. -/
inductive Produces (sharedSigner : Address) (h : Hash) :
    Signer → Exchange → OwnerSignature → Prop
  /-- The two numbers that the key answered, and the byte that tells two points apart. -/
  | key {address : Address} {method : SigningMethod} {data : TypedData}
      {signature : Secp256k1.Signature} {new : OwnerSignature}
      (hdata : data.signingHash = .ok h) (hsigner : new.signer = address)
      (hbytes : new.data = Bytes.ofBits 32 signature.r ++ Bytes.ofBits 32 signature.s
        ++ [if signature.yIsOdd then 28 else 27])
      (hkind : new.isContract = false) :
      Produces sharedSigner h (.key address) ⟨.typedSignature method data, .ok signature⟩ new
  /-- What the authenticator answered, with the fields that are cut out of the signed text. -/
  | passkey {credential : Passkey} {assertion : Assertion} {fields : List Char}
      {new : OwnerSignature} (hfields : Passkey.Cuts assertion.clientData.toList (.ok fields))
      (hsigner : new.signer = sharedSigner)
      (hbytes : new.data = Abi.encode [.bytes, .bytes, .tuple [.uint 256, .uint 256]]
        (assertion.authenticatorData, Bytes.ofText (String.ofList fields),
          (assertion.r, assertion.s, ()), ()))
      (hkind : new.isContract = true) :
      Produces sharedSigner h (.passkey credential) ⟨.assertion h, .ok assertion⟩ new

/-- A signature is attributed to the address that the account knows the signer by. -/
theorem Produces.signer_eq {sharedSigner : Address} {h : Hash} {s : Signer} {x : Exchange}
    {new : OwnerSignature} (hnew : s.Produces sharedSigner h x new) :
    new.signer = s.owner sharedSigner := by
  cases hnew with
  | key _ hsigner => exact hsigner
  | passkey _ hsigner => exact hsigner

/-- A signature of a passkey is made from the fields of the text that was signed. -/
theorem produces_of_toSignature {sharedSigner : Address} {h : Hash} {credential : Passkey}
    {assertion : Assertion} {new : OwnerSignature}
    (hnew : Passkey.toSignature sharedSigner assertion = .ok new) :
    (passkey credential).Produces sharedSigner h ⟨.assertion h, .ok assertion⟩ new := by
  obtain ⟨r, hcuts⟩ := Passkey.exists_cuts assertion.clientData.toList
  rw [Passkey.toSignature, hcuts.clientDataFields_eq] at hnew
  cases r with
  | error fault => cases hnew
  | ok fields =>
    obtain rfl := Except.ok.inj hnew
    exact .passkey hcuts rfl rfl rfl

/-- What is exchanged with a signer for a signature of a hash, and what comes of it. -/
structure Consulted (s : Signer) (sharedSigner : Address) (h : Hash) (t : List Exchange)
    (r : Except SignerError OwnerSignature) : Prop where
  asked : t ≠ []
  /-- Only the signer is asked, and only to sign the hash. -/
  question : ∀ x ∈ t, x.1.ForSigner ∧ x.1.SignsOnly h
  /-- A signature is made from the last answer. -/
  produced : ∀ new, r = .ok new → ∃ before last, t = before ++ [last]
    ∧ s.Produces sharedSigner h last new

/-- Asking a passkey is one exchange, and ends with what the answer is turned into. -/
theorem ends_signHash_iff {sharedSigner : Address} {h : Hash} {t : List Exchange}
    {r : Except SignerError OwnerSignature} :
    (signHash sharedSigner h).Ends t r ↔
      ∃ answer, t = [⟨.assertion h, answer⟩]
        ∧ (answer.bind (Passkey.toSignature sharedSigner)) = r := by
  rw [signHash, Attempt.ends_bind_iff]
  constructor
  · rintro (⟨e, hquery, rfl⟩ | ⟨t₁, t₂, assertion, rfl, hquery, hrest⟩)
    · obtain rfl := (Program.runs_query_iff id).mp hquery
      exact ⟨.error e, rfl, rfl⟩
    · obtain rfl := (Program.runs_query_iff id).mp hquery
      obtain ⟨rfl, hr⟩ := Attempt.ends_ofExcept_iff.mp hrest
      exact ⟨.ok assertion, rfl, hr⟩
  · rintro ⟨answer, rfl, rfl⟩
    cases answer with
    | error e => exact Or.inl ⟨e, (Program.runs_query_iff id).mpr rfl, rfl⟩
    | ok assertion =>
      exact Or.inr ⟨_, [], assertion, rfl, (Program.runs_query_iff id).mpr rfl, .done _⟩

/-- A key signs the message of an operation. -/
theorem ends_sign_key_iff {address : Address} {op : SafeOperation} {data : TypedData}
    (htyped : op.typedData = .ok data) {method : SigningMethod} {sharedSigner : Address}
    {t : List Exchange} {r : Except SignerError OwnerSignature} :
    ((key address).sign op method sharedSigner).Ends t r ↔
      ∃ r', Tries address data method.strategies t r' ∧ r = r'.map (.ofKey address) := by
  have hsign : (key address).sign op method sharedSigner
      = signTypedData address data method.strategies >>= fun signature =>
          Attempt.ofExcept (.ok (.ofKey address signature)) := by
    rw [sign, htyped]
    rfl
  rw [hsign, Attempt.ends_bind_iff]
  constructor
  · rintro (⟨e, htries, rfl⟩ | ⟨t₁, t₂, signature, rfl, htries, hrest⟩)
    · exact ⟨.error e, ends_signTypedData_iff.mp htries, rfl⟩
    · obtain ⟨rfl, rfl⟩ := Attempt.ends_ofExcept_iff.mp hrest
      rw [List.append_nil]
      exact ⟨.ok signature, ends_signTypedData_iff.mp htries, rfl⟩
  · rintro ⟨r', htries, rfl⟩
    cases r' with
    | error e => exact Or.inl ⟨e, ends_signTypedData_iff.mpr htries, rfl⟩
    | ok signature =>
      exact Or.inr ⟨t, [], signature, (List.append_nil t).symm,
        ends_signTypedData_iff.mpr htries, Attempt.ends_ofExcept_iff.mpr ⟨rfl, rfl⟩⟩

/-- Whatever the signer is, it is asked for signatures of the hash of the operation, if a wallet
can read the message of the operation and finds that hash. -/
theorem consulted_sign {s : Signer} {op : SafeOperation} {data : TypedData}
    (htyped : op.typedData = .ok data) (hdata : data.signingHash = .ok op.hash)
    {method : SigningMethod} {sharedSigner : Address} {t : List Exchange}
    {r : Except SignerError OwnerSignature} (hrun : (s.sign op method sharedSigner).Ends t r) :
    s.Consulted sharedSigner op.hash t r := by
  cases s with
  | key address =>
    obtain ⟨r', htries, rfl⟩ := (ends_sign_key_iff htyped).mp hrun
    refine ⟨htries.ne_nil, fun x hx => ?_, fun new hnew => ?_⟩
    · obtain ⟨tried, -, hquestion⟩ := htries.question x hx
      rw [hquestion]
      exact ⟨trivial, hdata⟩
    · cases r' with
      | error e => cases hnew
      | ok signature =>
        cases hnew
        obtain ⟨before, last, rfl⟩ := htries.last rfl
        exact ⟨before, _, rfl, .key hdata rfl rfl rfl⟩
  | passkey credential =>
    obtain ⟨answer, rfl, rfl⟩ := ends_signHash_iff.mp (Attempt.ends_tell_bind_iff.mp hrun)
    refine ⟨List.cons_ne_nil _ _, fun x hx => ?_, fun new hnew => ?_⟩
    · obtain rfl := List.mem_singleton.mp hx
      exact ⟨trivial, rfl⟩
    · cases answer with
      | error e => cases hnew
      | ok assertion => exact ⟨[], _, rfl, produces_of_toSignature hnew⟩

end Signer

end SafeOps
