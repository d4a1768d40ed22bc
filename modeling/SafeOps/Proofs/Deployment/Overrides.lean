import SafeOps.Proofs.Deployment

/-!
# `SafeOps.Proofs.Deployment.Overrides`: which code a new account has when addresses are replaced

A caller may replace the contracts that an account works with. Each address that is given takes the
place of one contract and leaves the others alone (`at_override`); the code that reports events is
the one contract that no address can be given for.

The code of a new account is named twice: in the call of the factory, and in what the account's
address is hashed from. `HasCode` says that both name the same code, and `hasCode_prepare_iff` that
they name the code that the contracts have for the flavour of the account, and no other.

So an address that is given for the code of accounts is the code of a new account of the canonical
flavour. An account that reports events has it only if it is its code anyway. The main statement is
`hasCode_override_iff`; behind it stands a deployment that misses the given code
(`not_hasCode_reporting`).
-/

set_option autoImplicit false

namespace SafeOps

/-! ### Contracts by their role -/

/-- What a contract is there for. -/
inductive Contracts.Role where
  | module
  | moduleSetup
  | entryPoint
  | proxyFactory
  | singleton
  | singletonL2
  | multiSend
  | multiSendCallOnly
  | sharedSigner
  deriving DecidableEq, Repr

/-- The contract with a role. -/
def Contracts.at (c : Contracts) : Role → Address
  | .module => c.module
  | .moduleSetup => c.moduleSetup
  | .entryPoint => c.entryPoint
  | .proxyFactory => c.proxyFactory
  | .singleton => c.singleton
  | .singletonL2 => c.singletonL2
  | .multiSend => c.multiSend
  | .multiSendCallOnly => c.multiSendCallOnly
  | .sharedSigner => c.sharedSigner

/-- The address that is given for a role. -/
def Overrides.at (o : Overrides) : Contracts.Role → Option Address
  | .module => o.module
  | .moduleSetup => o.moduleSetup
  | .entryPoint => o.entryPoint
  | .proxyFactory => o.proxyFactory
  | .singleton => o.singleton
  | .singletonL2 => none
  | .multiSend => o.multiSend
  | .multiSendCallOnly => o.multiSendCallOnly
  | .sharedSigner => o.sharedSigner

namespace Contracts

/-- Each contract is the one that is given for its role, or the one there was. -/
theorem at_override (c : Contracts) (o : Overrides) (role : Role) :
    (c.override o).at role = (o.at role).getD (c.at role) := by
  cases role <;> rfl

/-- Contracts are known by their roles. -/
theorem ext_at {c d : Contracts} (h : ∀ role, c.at role = d.at role) : c = d := by
  cases c
  cases d
  simp only [mk.injEq]
  exact ⟨h .module, h .moduleSetup, h .entryPoint, h .proxyFactory, h .singleton, h .singletonL2,
    h .multiSend, h .multiSendCallOnly, h .sharedSigner⟩

theorem override_eq_iff {c d : Contracts} {o : Overrides} :
    c.override o = d ↔ ∀ role, d.at role = (o.at role).getD (c.at role) := by
  constructor
  · rintro rfl
    exact at_override c o
  · intro h
    exact ext_at fun role => (at_override c o role).trans (h role).symm

end Contracts

/-! ### The code of a new account -/

namespace Deployment

/-- The factory is told to deploy an account with this code, and the address of the deployment is
that of an account with this code. -/
def HasCode (d : Deployment) (saltNonce : Word) (creationCode : Bytes) (code : Address) : Prop :=
  ∃ initializer,
    Contract.createProxyWithNonce.decode d.factoryData = .ok (code, initializer, saltNonce, ())
      ∧ d.factory.IsCreated
        (keccak256 ((keccak256 initializer).toBytes ++ Bytes.ofBits 32 saltNonce))
        (creationCode ++ Bytes.ofBits 32 code.toWord) d.account

variable {contracts : Contracts} {account : NewAccount} {extras : SetupExtras}
  {creationCode : Bytes}

theorem decode_factoryData (howners : 20 * account.owners.length < 2 ^ 63) :
    Contract.createProxyWithNonce.decode (prepare contracts account extras creationCode).factoryData
      = .ok (singleton contracts account.flavour,
          initializer contracts account.owners account.threshold extras, account.saltNonce, ()) := by
  have hlength : (prepare contracts account extras creationCode).factoryData.length < limit 64 := by
    have hle := length_factoryData_le contracts account extras creationCode
    rw [limit_64]
    omega
  have hread := Abi.Function.decode_encode (f := Contract.createProxyWithNonce) (by decide) _ []
    hlength
  rwa [List.append_nil] at hread

/-- A new account has the code for its flavour, and no other. -/
theorem hasCode_prepare_iff (howners : 20 * account.owners.length < 2 ^ 63) {code : Address} :
    (prepare contracts account extras creationCode).HasCode account.saltNonce creationCode code
      ↔ code = singleton contracts account.flavour := by
  have hread := @decode_factoryData contracts account extras creationCode howners
  constructor
  · rintro ⟨data, hdecode, -⟩
    rw [hread] at hdecode
    exact (Prod.mk.inj (Except.ok.inj hdecode)).1.symm
  · rintro rfl
    exact ⟨_, hread, isCreated_createdAddress _ _ _⟩

/-- Whatever addresses a caller gives, they take the places of the contracts they are given for,
and of no others. The address given for the code of accounts is then the code of a new account,
in the call of the factory and in what its address is hashed from, exactly if the account is of
the canonical flavour or had this code before: an account that reports events keeps its code. -/
theorem hasCode_override_iff (c : Contracts) (o : Overrides) (account : NewAccount)
    (extras : SetupExtras) (creationCode : Bytes)
    (howners : 20 * account.owners.length < 2 ^ 63) :
    (∀ d : Contracts, c.override o = d ↔ ∀ role, d.at role = (o.at role).getD (c.at role))
      ∧ (∀ code, (prepare (c.override o) account extras creationCode).HasCode account.saltNonce
          creationCode code ↔
        code = (match account.flavour with
          | .canonical => o.singleton.getD c.singleton
          | .layer2 => c.singletonL2))
      ∧ ∀ given, o.singleton = some given →
        ((prepare (c.override o) account extras creationCode).HasCode account.saltNonce
          creationCode given ↔ account.flavour = .canonical ∨ given = c.singletonL2) := by
  have hcode : ∀ code, (prepare (c.override o) account extras creationCode).HasCode
      account.saltNonce creationCode code ↔
        code = (match account.flavour with
          | .canonical => o.singleton.getD c.singleton
          | .layer2 => c.singletonL2) := by
    intro code
    rw [hasCode_prepare_iff howners]
    cases account.flavour <;> rfl
  refine ⟨fun d => Contracts.override_eq_iff, hcode, fun given hgiven => ?_⟩
  rw [hcode given, hgiven]
  cases account.flavour with
  | canonical => exact ⟨fun _ => Or.inl rfl, fun _ => rfl⟩
  | layer2 => exact ⟨Or.inr, fun h => h.resolve_left nofun⟩

/-- An account with one owner. -/
def oneOwner (flavour : Flavour) : NewAccount :=
  ⟨[⟨0x0101010101010101010101010101010101010101⟩], 1, 5, "1.4.1", flavour⟩

/-- An account of the canonical flavour has the given code. -/
theorem hasCode_plain :
    (prepare ((Contracts.canonical .v07).override { singleton := some ⟨0xbeef⟩ })
      (oneOwner .canonical) {} [1, 2, 3]).HasCode 5 [1, 2, 3] ⟨0xbeef⟩ :=
  ((hasCode_override_iff (.canonical .v07) { singleton := some ⟨0xbeef⟩ } (oneOwner .canonical) {}
    [1, 2, 3] (by decide)).2.2 ⟨0xbeef⟩ rfl).mpr (Or.inl rfl)

/-- An account that reports events does not have the given code. -/
theorem not_hasCode_reporting :
    ¬ (prepare ((Contracts.canonical .v07).override { singleton := some ⟨0xbeef⟩ })
      (oneOwner .layer2) {} [1, 2, 3]).HasCode 5 [1, 2, 3] ⟨0xbeef⟩ := by
  intro h
  have howners : 20 * (oneOwner .layer2).owners.length < 2 ^ 63 := by decide
  have hcode := (hasCode_prepare_iff howners).mp h
  exact absurd hcode (by decide)

end Deployment

end SafeOps
