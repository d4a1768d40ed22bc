import SafeOps.Proofs.Account.Endorsement

/-!
# `SafeOps.Proofs.Account.SigningDomain`: for which module an owner signs

Owners sign in the domain of a module on a chain. The chain is that of the account, since an
operation of another chain is refused. The module is not compared: it is the one that the operation
names, or the record it is taken out of (`module_of_sign`). An operation that the account prepared
itself names the account's module, whatever was done to it since (`module_of_create`), but a record
may name any other, and is signed for it all the same (`exists_sign_other_module`).
-/

set_option autoImplicit false

namespace SafeOps

/-- The module that an operation names, wherever it comes from. -/
def OperationSource.module : OperationSource → Address
  | .built op => op.context.module
  | .kept record => record.module

/-- The context of a record has its module and its entry point, on the chain in question. -/
theorem SafeOperationRecord.toContext_eq_ok {r : SafeOperationRecord} {chainId : BitVec 64}
    {c : SigningContext} (h : r.toContext chainId = .ok c) :
    c.chainId = chainId ∧ c.module = r.module ∧ c.entryPoint = r.entryPoint := by
  simp only [toContext, bind_eq_ok_iff, pure_eq_ok_iff] at h
  obtain ⟨validAfter, -, validUntil, -, rfl⟩ := h
  exact ⟨rfl, rfl, rfl⟩

namespace Account

variable {a : Account} {source : OperationSource} {op op' : SafeOperation} {t : List Exchange}

/-- An operation that is taken up has the module it names. -/
theorem module_of_takeUp (h : a.takeUp source = .ok op) : op.context.module = source.module := by
  cases source with
  | built built =>
    cases h
    rfl
  | kept record =>
    have hmake : (Origin.record record a.chainId).make = .ok op := h
    obtain ⟨hcontext, -⟩ := Origin.gives_of_make hmake
    exact (SafeOperationRecord.toContext_eq_ok hcontext).2.1

/-- An operation that an account prepared has the account's module, after any changes. -/
theorem module_of_create {calls : List Call} {o : OperationOptions}
    (h : (a.create calls o).Gives t op) (changes : List SafeOperation.Change) :
    (op.run changes).context.module = a.contracts.module := by
  obtain ⟨p⟩ := gives_create_iff.mp h
  obtain ⟨generation, -, -, -, hstart⟩ := SafeOperation.ofDraft_eq_ok_iff.mp p.ofDraft
  have hkept := congrArg SafeOperation.Kept.context (SafeOperation.kept_run op changes)
  have hcontext : (op.run changes).context = a.signingContext o := by
    refine hkept.trans ?_
    show op.context = a.signingContext o
    rw [p.op_eq, staged, hstart]
  rw [hcontext]
  rfl

/-- An operation that comes back signed was normalized, and the signature was made for its hash. -/
theorem consulted_of_gives_sign (hsource : source.Genuine) {method : SigningMethod}
    (h : (a.sign source method).Gives t op') :
    ∃ op new told asked, a.normalize source = .ok op ∧ op' = op.addSignature new
      ∧ t = told ++ asked ∧ (a.isOwner a.signerAddress).Gives told true
      ∧ a.signer.Consulted a.contracts.sharedSigner op.hash asked (.ok new) := by
  cases hnormalize : a.normalize source with
  | error e => cases ((ends_sign_of_error hnormalize).mp h).2
  | ok op =>
    rcases (ends_sign_iff hnormalize).mp h with
      ⟨e, -, herror⟩ | ⟨-, herror⟩ | ⟨told, asked, r', rfl, hruling, hsigned, hr⟩
    · cases herror
    · cases herror
    · cases r' with
      | error e => cases hr
      | ok new =>
        cases hr
        exact ⟨op, new, told, asked, rfl, rfl, rfl, hruling,
          consulted_of_normalize hsource hnormalize hsigned⟩

/-- What an account has signed is signed in the domain of the module that the operation names, on
the account's chain. For an operation that the account prepared itself, however it was changed
since, that is the account's module. -/
theorem module_of_sign (hnode : a.node.SparesSigner) (hsource : source.Genuine)
    {method : SigningMethod} (h : (a.sign source method).Gives t op') :
    op'.context.module = source.module
      ∧ op'.hash = signingHash
          (keccak256 (UserOperation.domainTypeHash.toBytes
            ++ wordsBytes [a.chainId.setWidth 256, source.module.toWord]))
          (op'.operation.recordHash op'.context)
      ∧ (∀ x ∈ t, x.1.SignsOnly op'.hash)
      ∧ ∀ calls o t₀ s₀ changes, (a.create calls o).Gives t₀ s₀ →
          source = .built (s₀.run changes) → op'.context.module = a.contracts.module := by
  obtain ⟨op, new, told, asked, hnormalize, rfl, rfl, hruling, hconsulted⟩ :=
    consulted_of_gives_sign hsource h
  obtain ⟨htaken, howns⟩ := normalize_eq_ok_iff.mp hnormalize
  have hmodule := module_of_takeUp htaken
  refine ⟨hmodule, ?_, fun x hx => ?_, fun calls o t₀ s₀ changes hcreate hbuilt => ?_⟩
  · rw [← hmodule, ← howns.chain]
    rfl
  · rcases List.mem_append.mp hx with hx | hx
    · exact Query.signsOnly_of_not_forSigner (hruling.forall_of_asks (asks_isOwner hnode _) x hx)
    · exact (hconsulted.question x hx).2
  · subst hbuilt
    exact hmodule.trans (module_of_create hcreate changes)

/-! ### Another module -/

/-- A record of an operation of `newcomerAccount`, but in the domain of another module. -/
def strayRecord : SafeOperationRecord where
  created := "2024-09-16T15:43:32Z"
  modified := none
  hash := "0x"
  nonce := "3"
  initCode := none
  callData := [0x7b, 0xb3, 0x74, 0x28]
  callGas := "120000"
  verificationGas := "90000"
  preVerificationGas := "50"
  maxFee := "7"
  maxPriorityFee := "1"
  paymaster := none
  paymasterData := none
  entryPoint := EntryPoint.v07.address
  validAfter := none
  validUntil := none
  module := ⟨9⟩
  confirmations := []
  preparedSignature := none
  userOperation := some {
    transactionHash := none
    sender := newcomerAccount.address
    hash := "0x"
    nonce := "3"
    initCode := none
    callData := [0x7b, 0xb3, 0x74, 0x28]
    callGas := "120000"
    verificationGas := "90000"
    preVerificationGas := "50"
    maxFee := "7"
    maxPriorityFee := "1"
    paymaster := none
    paymasterData := none
    signature := none
    entryPoint := EntryPoint.v07.address }

/-- The key of the account signs the operation of the record. -/
theorem gives_sign_strayRecord :
    ∃ data op', (newcomerAccount.sign (.kept strayRecord) .v4).Gives
      [⟨.node (.isDeployed newcomerAccount.address), .ok false⟩,
        ⟨.typedSignature .v4 data, .ok ⟨17, 19, true⟩⟩] op' := by
  obtain ⟨op, hmake, howns⟩ : ∃ op, (Origin.record strayRecord 1).make = .ok op
      ∧ newcomerAccount.Owns op := ⟨_, rfl, rfl, rfl, rfl⟩
  have hnormalize : newcomerAccount.normalize (.kept strayRecord) = .ok op :=
    normalize_of_owns hmake howns
  obtain ⟨data, htyped⟩ := SafeOperation.exists_typedData hmake
  have hruling : (newcomerAccount.isOwner newcomerAccount.signerAddress).Ends
      [⟨.node (.isDeployed newcomerAccount.address), .ok false⟩] (.ok true) :=
    ends_isOwner_iff.mpr (Or.inr ⟨_, .undeployed ((Program.runs_query_iff id).mpr rfl),
      Or.inl ⟨Or.inl ⟨newcomerDeployment, rfl, List.mem_singleton.mpr rfl⟩, rfl⟩⟩)
  have htries : Signer.Tries ⟨7⟩ data (SigningMethod.strategies .v4)
      [⟨.typedSignature .v4 data, .ok ⟨17, 19, true⟩⟩] (.ok ⟨17, 19, true⟩) := .answered nofun
  exact ⟨data, _, (ends_sign_iff hnormalize).mpr (Or.inr (Or.inr
    ⟨_, _, _, rfl, hruling, (Signer.ends_sign_key_iff htyped).mpr ⟨_, htries, rfl⟩, rfl⟩))⟩

theorem module_of_sign_strayRecord :
    ∃ t op', (newcomerAccount.sign (.kept strayRecord) .v4).Gives t op'
      ∧ op'.context.module = ⟨9⟩ ∧ ∀ x ∈ t, x.1.SignsOnly op'.hash := by
  obtain ⟨data, op', h⟩ := gives_sign_strayRecord
  obtain ⟨hmodule, -, hsigns, -⟩ :=
    module_of_sign Node.sparesSigner_external (OperationSource.genuine_kept _) h
  exact ⟨_, op', h, hmodule, hsigns⟩

/-- An account that was set up in the usual way signs an operation in the domain of a module that
is not its own. -/
theorem exists_sign_other_module :
    ∃ t₀ t op', (init newcomer).Gives t₀ newcomerAccount
      ∧ (newcomerAccount.sign (.kept strayRecord) .v4).Gives t op'
      ∧ op'.context.module ≠ newcomerAccount.contracts.module := by
  obtain ⟨t₀, hinit⟩ := gives_init_newcomer
  obtain ⟨data, op', h⟩ := gives_sign_strayRecord
  obtain ⟨op, new, -, -, hnormalize, rfl, -⟩ :=
    consulted_of_gives_sign (OperationSource.genuine_kept _) h
  have hmodule : op.context.module = ⟨9⟩ :=
    module_of_takeUp (normalize_eq_ok_iff.mp hnormalize).1
  refine ⟨t₀, _, _, hinit, h, ?_⟩
  show op.context.module ≠ newcomerAccount.contracts.module
  rw [hmodule]
  decide

end Account

end SafeOps
