import SafeOps.Proofs.Account.Admission
import SafeOps.Proofs.Signature.Collection
import SafeOps.Proofs.Signer

/-!
# `SafeOps.Proofs.Account.Endorsement`: when an account has an operation signed

An operation that belongs to an account is signed for it by an owner. The account works with one
signer, which it knows by an address: the address of a key, or that of the contract which all
passkeys share. Whether that address is an owner is found out first (`Finds`): a deployed account
has its owners listed by the node, and any other account has those it will be deployed with, and
its passkey.

`Endorses` are all the ways in which signing an operation may go: it cannot be taken up, or belongs
elsewhere, or nothing is found out about the owners, or the signer is none of them, or the signer
is asked. Only in the last one there is a question to the signer, and only after the others are
ruled out (`endorses_of_sign`). What comes out then is the operation as it was, with the signer's
new signature in place of an older one (`Endorsed`): the bytes that the signer answered, in the
name of the owner (`Signer.Produces`).
-/

set_option autoImplicit false

namespace SafeOps

/-- A local operation was made in one of the known ways, and changed in known ways. A record may
say anything. -/
def OperationSource.Genuine : OperationSource → Prop
  | .built op => ∃ (o : Origin) (s₀ : SafeOperation) (changes : List SafeOperation.Change),
      o.make = .ok s₀ ∧ op = s₀.run changes
  | .kept _ => True

theorem OperationSource.genuine_built {o : Origin} {s₀ : SafeOperation} (h : o.make = .ok s₀)
    (changes : List SafeOperation.Change) : (built (s₀.run changes)).Genuine :=
  ⟨o, s₀, changes, h, rfl⟩

theorem OperationSource.genuine_kept (record : SafeOperationRecord) : (kept record).Genuine :=
  trivial

namespace Account

variable {a : Account} {source : OperationSource} {op : SafeOperation} {t : List Exchange}

/-- An operation that is taken up is well-formed. -/
theorem wellFormed_of_takeUp (hsource : source.Genuine) (h : a.takeUp source = .ok op) :
    op.WellFormed := by
  cases source with
  | built built =>
    obtain ⟨o, s₀, changes, hmake, rfl⟩ := hsource
    cases h
    exact SafeOperation.wellFormed_run hmake changes
  | kept record =>
    exact SafeOperation.wellFormed_run (o := .record record a.chainId) h []

/-! ### Owners -/

/-- The address the account knows its signer by. -/
def signerAddress (a : Account) : Address :=
  match a.signer with
  | .key address => address
  | .passkey _ => a.contracts.sharedSigner

theorem owner_signer (a : Account) : a.signer.owner a.contracts.sharedSigner = a.signerAddress := by
  rw [signerAddress]
  cases a.signer <;> rfl

/-- By asking its node the account finds out who its owners are. -/
inductive Finds (a : Account) : List Exchange → (Address → Prop) → Prop
  | deployed {t₁ t₂ : List Exchange} {owners : List Address}
      (hdeployed : (a.node.read (.isDeployed a.address)).Gives t₁ true)
      (howners : (a.node.read (.owners a.address)).Gives t₂ owners) :
      Finds a (t₁ ++ t₂) fun owner => owner ∈ owners
  /-- The owners are those of the deployment, and the passkey the account works with. -/
  | undeployed {t : List Exchange}
      (hdeployed : (a.node.read (.isDeployed a.address)).Gives t false) :
      Finds a t fun owner =>
        (∃ deployment, a.deployment = some deployment ∧ owner ∈ deployment.owners)
          ∨ a.signer.isPasskey = true

/-- The account's node does not tell who the owners are. -/
inductive Misses (a : Account) : List Exchange → NodeError → Prop
  | undecided {t : List Exchange} {e : NodeError}
      (hdeployed : (a.node.read (.isDeployed a.address)).Ends t (.error e)) : Misses a t e
  | unlisted {t₁ t₂ : List Exchange} {e : NodeError}
      (hdeployed : (a.node.read (.isDeployed a.address)).Gives t₁ true)
      (howners : (a.node.read (.owners a.address)).Ends t₂ (.error e)) : Misses a (t₁ ++ t₂) e

/-- A ruling on whether something is so, as the two cases. -/
theorem ok_ruling_eq_iff {P : Prop} {ruling : Bool} (h : ruling = true ↔ P)
    {r : Except AccountError Bool} :
    Except.ok ruling = r ↔ (P ∧ r = .ok true) ∨ (¬ P ∧ r = .ok false) := by
  cases ruling with
  | true => simp [← h, eq_comm]
  | false => simp [← h, eq_comm]

/-- The owners an account will be deployed with are predicted as the code predicts them. -/
theorem predicted_iff {owner : Address} :
    ((match a.deployment with
        | some deployment => deployment.owners.contains owner
        | none => false) || a.signer.isPasskey) = true
      ↔ (∃ deployment, a.deployment = some deployment ∧ owner ∈ deployment.owners)
          ∨ a.signer.isPasskey = true := by
  cases a.deployment with
  | none => simp
  | some deployment => simp

/-- Whether an address is an owner is what was found out about the owners. -/
theorem ends_isOwner_iff {owner : Address} {r : Except AccountError Bool} :
    (a.isOwner owner).Ends t r ↔
      (∃ e, a.Misses t e ∧ r = .error (.node e))
        ∨ ∃ IsOwner, a.Finds t IsOwner
            ∧ ((IsOwner owner ∧ r = .ok true) ∨ (¬ IsOwner owner ∧ r = .ok false)) := by
  rw [isOwner, readNode, Attempt.ends_mapError_bind_iff]
  constructor
  · rintro (⟨e, hdeployed, rfl⟩ | ⟨t₁, t₂, deployed, rfl, hdeployed, hrest⟩)
    · exact Or.inl ⟨e, .undecided hdeployed, rfl⟩
    · cases deployed with
      | true =>
        rcases Attempt.ends_mapError_bind_iff.mp hrest with
          ⟨e, howners, rfl⟩ | ⟨t₂, t₃, owners, rfl, howners, hpure⟩
        · exact Or.inl ⟨e, .unlisted hdeployed howners, rfl⟩
        · obtain ⟨rfl, hruling⟩ := Attempt.ends_ofExcept_iff.mp hpure
          rw [List.append_nil]
          exact Or.inr ⟨_, .deployed hdeployed howners,
            (ok_ruling_eq_iff List.contains_iff_mem).mp hruling⟩
      | false =>
        obtain ⟨rfl, hruling⟩ := Attempt.ends_ofExcept_iff.mp hrest
        rw [List.append_nil]
        exact Or.inr ⟨_, .undeployed hdeployed, (ok_ruling_eq_iff predicted_iff).mp hruling⟩
  · rintro (⟨e, hmisses, rfl⟩ | ⟨IsOwner, hfinds, hruled⟩)
    · cases hmisses with
      | undecided hdeployed => exact Or.inl ⟨e, hdeployed, rfl⟩
      | unlisted hdeployed howners =>
        exact Or.inr ⟨_, _, true, rfl, hdeployed,
          Attempt.ends_mapError_bind_iff.mpr (Or.inl ⟨e, howners, rfl⟩)⟩
    · cases hfinds with
      | deployed hdeployed howners =>
        refine Or.inr ⟨_, _, true, rfl, hdeployed, Attempt.ends_mapError_bind_iff.mpr
          (Or.inr ⟨_, [], _, (List.append_nil _).symm, howners, ?_⟩)⟩
        exact Attempt.ends_ofExcept_iff.mpr
          ⟨rfl, (ok_ruling_eq_iff List.contains_iff_mem).mpr hruled⟩
      | undeployed hdeployed =>
        refine Or.inr ⟨_, [], false, (List.append_nil _).symm, hdeployed, ?_⟩
        exact Attempt.ends_ofExcept_iff.mpr ⟨rfl, (ok_ruling_eq_iff predicted_iff).mpr hruled⟩

/-! ### Signing -/

/-- The signature that was asked for is added; a failure is put in the account's words. -/
theorem ends_added_iff {p : Attempt SignerError OwnerSignature} {text : String}
    {r : Except AccountError SafeOperation} :
    (Attempt.mapError ofSignerError p >>= fun signature =>
        Attempt.tell .debug text >>= fun _ => pure (op.addSignature signature)).Ends t r ↔
      ∃ r', p.Ends t r' ∧ r = (r'.map op.addSignature).mapError ofSignerError := by
  rw [Attempt.ends_mapError_bind_iff]
  constructor
  · rintro (⟨e, hp, rfl⟩ | ⟨t₁, t₂, signature, rfl, hp, hrest⟩)
    · exact ⟨.error e, hp, rfl⟩
    · obtain ⟨rfl, rfl⟩ := Attempt.ends_ofExcept_iff.mp (Attempt.ends_tell_bind_iff.mp hrest)
      rw [List.append_nil]
      exact ⟨.ok signature, hp, rfl⟩
  · rintro ⟨r', hp, rfl⟩
    cases r' with
    | error e => exact Or.inl ⟨e, hp, rfl⟩
    | ok signature =>
      exact Or.inr ⟨t, [], signature, (List.append_nil t).symm, hp,
        Attempt.ends_tell_bind_iff.mpr (Attempt.ends_ofExcept_iff.mpr ⟨rfl, rfl⟩)⟩

/-- An operation that was normalized is signed in three steps: whether the signer is an owner is
found out, the signer is asked, and its signature is added. -/
theorem ends_sign_iff (h : a.normalize source = .ok op) {method : SigningMethod}
    {r : Except AccountError SafeOperation} :
    (a.sign source method).Ends t r ↔
      (∃ e, (a.isOwner a.signerAddress).Ends t (.error e) ∧ r = .error e)
        ∨ ((a.isOwner a.signerAddress).Ends t (.ok false)
            ∧ r = .error (.notOwner a.signerAddress a.address))
        ∨ ∃ told asked r', t = told ++ asked
            ∧ (a.isOwner a.signerAddress).Ends told (.ok true)
            ∧ (a.signer.sign op method a.contracts.sharedSigner).Ends asked r'
            ∧ r = (r'.map op.addSignature).mapError ofSignerError := by
  rw [sign, h, Attempt.ends_within_iff, Attempt.ends_ok_bind_iff, owner_signer,
    Attempt.ends_bind_iff]
  constructor
  · rintro (⟨e, hruling, rfl⟩ | ⟨told, asked, ruling, rfl, hruling, hrest⟩)
    · exact Or.inl ⟨e, hruling, rfl⟩
    · cases ruling with
      | false =>
        obtain ⟨rfl, rfl⟩ := Attempt.ends_ofExcept_iff.mp hrest
        rw [List.append_nil]
        exact Or.inr (Or.inl ⟨hruling, rfl⟩)
      | true =>
        obtain ⟨r', hsigned, hr⟩ := ends_added_iff.mp hrest
        exact Or.inr (Or.inr ⟨told, asked, r', rfl, hruling, hsigned, hr⟩)
  · rintro (⟨e, hruling, rfl⟩ | ⟨hruling, rfl⟩ | ⟨told, asked, r', rfl, hruling, hsigned, hr⟩)
    · exact Or.inl ⟨e, hruling, rfl⟩
    · exact Or.inr ⟨t, [], false, (List.append_nil t).symm, hruling,
        Attempt.ends_ofExcept_iff.mpr ⟨rfl, rfl⟩⟩
    · exact Or.inr ⟨told, asked, true, rfl, hruling, ends_added_iff.mpr ⟨r', hsigned, hr⟩⟩

/-- One operation is another with a new signature of the account's signer, made from the last of
these answers. Of that owner there is no other signature, and those of other owners are as they
were. -/
structure Endorsed (a : Account) (op : SafeOperation) (asked : List Exchange)
    (op' : SafeOperation) : Prop where
  operation : op'.operation = op.operation
  context : op'.context = op.context
  hash : op'.hash = op.hash
  own : ∃ new before last, asked = before ++ [last]
    ∧ a.signer.Produces a.contracts.sharedSigner op'.hash last new
    ∧ op'.signatures.entries.filter (fun s => s.signer = a.signerAddress) = [new]
  others : op'.signatures.entries.filter (fun s => s.signer ≠ a.signerAddress)
    = op.signatures.entries.filter (fun s => s.signer ≠ a.signerAddress)

/-- What was asked of a node before the signer. -/
def Unsigned (told : List Exchange) : Prop :=
  ∀ x ∈ told, ¬ x.1.ForSigner

/-- All the ways in which having an operation signed may go. -/
inductive Endorses (a : Account) (source : OperationSource) :
    List Exchange → Except AccountError SafeOperation → Prop
  /-- The operation cannot be taken up. -/
  | unreadable {e : OperationError} (htaken : a.takeUp source = .error e) :
      Endorses a source [] (.error (.operation e))
  /-- The operation belongs elsewhere. -/
  | foreign {op : SafeOperation} {reason : Foreignness} (htaken : a.takeUp source = .ok op)
      (hforeign : ¬ a.Owns op) : Endorses a source [] (.error (.foreign reason))
  /-- The node does not tell who the owners are. -/
  | undecided {op : SafeOperation} {told : List Exchange} {e : NodeError}
      (htaken : a.takeUp source = .ok op) (howns : a.Owns op) (hmisses : a.Misses told e)
      (hunsigned : Unsigned told) : Endorses a source told (.error (.node e))
  /-- The signer is no owner. -/
  | stranger {op : SafeOperation} {told : List Exchange} {IsOwner : Address → Prop}
      (htaken : a.takeUp source = .ok op) (howns : a.Owns op) (hfinds : a.Finds told IsOwner)
      (hunsigned : Unsigned told) (hstranger : ¬ IsOwner a.signerAddress) :
      Endorses a source told (.error (.notOwner a.signerAddress a.address))
  /-- The signer is an owner, and is asked to sign the hash of the operation. -/
  | asked {op : SafeOperation} {told asked : List Exchange} {IsOwner : Address → Prop}
      {r : Except AccountError SafeOperation}
      (htaken : a.takeUp source = .ok op) (howns : a.Owns op) (hfinds : a.Finds told IsOwner)
      (hunsigned : Unsigned told) (howner : IsOwner a.signerAddress) (hasked : asked ≠ [])
      (hquestion : ∀ x ∈ asked, x.1.ForSigner ∧ x.1.SignsOnly op.hash)
      (hendorsed : ∀ op', r = .ok op' → a.Endorsed op asked op') :
      Endorses a source (told ++ asked) r

/-- An operation that is not normalized cannot be taken up, or belongs elsewhere. -/
theorem endorses_of_error {e : AccountError} (h : a.normalize source = .error e) :
    a.Endorses source [] (.error e) := by
  cases htaken : a.takeUp source with
  | error fault =>
    simp only [normalize, htaken] at h
    obtain rfl := Except.error.inj h
    exact .unreadable htaken
  | ok op =>
    by_cases howns : a.Owns op
    · cases h.symm.trans (normalize_of_owns htaken howns)
    · obtain ⟨reason, -, hrefused⟩ := normalize_of_not_owns htaken howns
      obtain rfl := Except.error.inj (hrefused.symm.trans h)
      exact .foreign htaken howns

/-- Adding a signature that the account's signer produced endorses the operation. -/
theorem endorsed_addSignature {asked before : List Exchange} {last : Exchange}
    {new : OwnerSignature} (hlast : asked = before ++ [last])
    (hnew : a.signer.Produces a.contracts.sharedSigner op.hash last new) :
    a.Endorsed op asked (op.addSignature new) := by
  have hsigner : new.signer = a.signerAddress := hnew.signer_eq.trans a.owner_signer
  refine ⟨rfl, rfl, rfl, ⟨new, before, last, hlast, hnew, ?_⟩, ?_⟩
  · rw [← hsigner]
    exact filter_signer_insertSignature op.signatures.ascending
  · rw [← hsigner]
    exact filter_other_insertSignature new op.signatures.entries

/-- A signer is not asked while the owners are found out. -/
theorem asks_isOwner (hnode : a.node.SparesSigner) (owner : Address) :
    (a.isOwner owner).run.Asks fun q => ¬ q.ForSigner := by
  refine Attempt.asks_bind (Attempt.asks_mapError (hnode _)) fun deployed => ?_
  cases deployed with
  | true => exact Attempt.asks_bind (Attempt.asks_mapError (hnode _)) fun owners => trivial
  | false => exact trivial

/-- For an operation that was normalized the signer is asked to sign the hash. -/
theorem consulted_of_normalize (hsource : source.Genuine) (h : a.normalize source = .ok op)
    {method : SigningMethod} {asked : List Exchange} {r : Except SignerError OwnerSignature}
    (hsigned : (a.signer.sign op method a.contracts.sharedSigner).Ends asked r) :
    a.signer.Consulted a.contracts.sharedSigner op.hash asked r := by
  have hwell := wellFormed_of_takeUp hsource (normalize_eq_ok_iff.mp h).1
  obtain ⟨htyped, hdata⟩ := SafeOperation.typedData_of_wellFormed hwell
  exact Signer.consulted_sign htyped hdata hsigned

/-- However an account has an operation signed, the signer is asked only after the operation was
normalized and the address of the signer was found among the owners, and only for signatures of
the hash of the operation. What is returned is the operation with the signer's new signature. -/
theorem endorses_of_sign (hnode : a.node.SparesSigner) (hsource : source.Genuine)
    {method : SigningMethod} {r : Except AccountError SafeOperation}
    (h : (a.sign source method).Ends t r) : a.Endorses source t r := by
  cases hnormalize : a.normalize source with
  | error e =>
    obtain ⟨rfl, rfl⟩ := (ends_sign_of_error hnormalize).mp h
    exact endorses_of_error hnormalize
  | ok op =>
    obtain ⟨htaken, howns⟩ := normalize_eq_ok_iff.mp hnormalize
    have hunsigned : ∀ {told ruling}, (a.isOwner a.signerAddress).Ends told ruling →
        Unsigned told := fun hruling => hruling.forall_of_asks (asks_isOwner hnode _)
    rcases (ends_sign_iff hnormalize).mp h with
      ⟨e, hruling, rfl⟩ | ⟨hruling, rfl⟩ | ⟨told, asked, r', rfl, hruling, hsigned, rfl⟩
    · rcases ends_isOwner_iff.mp hruling with ⟨e', hmisses, he⟩ | ⟨_, _, ⟨_, hok⟩ | ⟨_, hok⟩⟩
      · cases he
        exact .undecided htaken howns hmisses (hunsigned hruling)
      · cases hok
      · cases hok
    · rcases ends_isOwner_iff.mp hruling with
        ⟨_, _, herror⟩ | ⟨_, hfinds, ⟨_, htrue⟩ | ⟨hstranger, -⟩⟩
      · cases herror
      · cases htrue
      · exact .stranger htaken howns hfinds (hunsigned hruling) hstranger
    · rcases ends_isOwner_iff.mp hruling with
        ⟨_, _, herror⟩ | ⟨_, hfinds, ⟨howner, -⟩ | ⟨_, hfalse⟩⟩
      · cases herror
      · have hconsulted := consulted_of_normalize hsource hnormalize hsigned
        refine .asked htaken howns hfinds (hunsigned hruling) howner hconsulted.asked
          hconsulted.question fun op' hr => ?_
        -- Only a signature leads to an operation, and the operation is the old one with it.
        cases r' with
        | error e => cases hr
        | ok new =>
          cases hr
          obtain ⟨before, last, hlast, hnew⟩ := hconsulted.produced new rfl
          exact endorsed_addSignature hlast hnew
      · cases hfalse

/-- A deployed account has two owners, and its key lacks one method but has another. -/
theorem endorses_of_sign_resident :
    ∃ op data t op', Origin.sample.make = .ok op ∧ op.typedData = .ok data
      ∧ t = [⟨.node (.isDeployed ⟨1⟩), .ok true⟩, ⟨.node (.owners ⟨1⟩), .ok [⟨8⟩, ⟨7⟩]⟩,
          ⟨.typedSignature .v4 data, .error (.unsupported .v4)⟩,
          ⟨.typedSignature .v3 data, .ok ⟨17, 19, true⟩⟩]
      ∧ ((resident 1).sign (.built op) .v4).Ends t (.ok op')
      ∧ (resident 1).Endorses (.built op) t (.ok op')
      ∧ op'.signatures.entries.filter (fun s => s.signer = ⟨7⟩)
        = [⟨⟨7⟩, Bytes.ofNat 32 17 ++ Bytes.ofNat 32 19 ++ [28], false⟩] := by
  obtain ⟨op, hmake, howns⟩ := owns_resident
  obtain ⟨data, htyped⟩ := SafeOperation.exists_typedData hmake
  have hnormalize : (resident 1).normalize (.built op) = .ok op := normalize_of_owns rfl howns
  have hgenuine := OperationSource.genuine_built hmake []
  have hread : ∀ question (answer : NodeQuery.Answer question),
      ((resident 1).node.read question).Gives [⟨.node question, .ok answer⟩] answer :=
    fun _ _ => (Program.runs_query_iff id).mpr rfl
  have hruling : ((resident 1).isOwner (resident 1).signerAddress).Ends
      ([⟨.node (.isDeployed ⟨1⟩), .ok true⟩] ++ [⟨.node (.owners ⟨1⟩), .ok [⟨8⟩, ⟨7⟩]⟩])
      (.ok true) :=
    ends_isOwner_iff.mpr (Or.inr ⟨_, .deployed (hread _ _) (hread _ _), Or.inl ⟨by decide, rfl⟩⟩)
  have htries : Signer.Tries ⟨7⟩ data (SigningMethod.strategies .v4)
      [⟨.typedSignature .v4 data, .error (.unsupported .v4)⟩,
        ⟨.typedSignature .v3 data, .ok ⟨17, 19, true⟩⟩] (.ok ⟨17, 19, true⟩) :=
    .lacking (.answered nofun)
  have hrun := (ends_sign_iff hnormalize).mpr (Or.inr (Or.inr
    ⟨_, _, _, rfl, hruling, (Signer.ends_sign_key_iff htyped).mpr ⟨_, htries, rfl⟩, rfl⟩))
  exact ⟨op, data, _, _, hmake, htyped, rfl, hrun,
    endorses_of_sign Node.sparesSigner_external hgenuine hrun,
    filter_signer_insertSignature (s := .ofKey ⟨7⟩ ⟨17, 19, true⟩) op.signatures.ascending⟩

end Account

end SafeOps
