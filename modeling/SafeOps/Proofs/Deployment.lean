import Mathlib.Data.List.Forall2
import SafeOps.Deployment
import SafeOps.Proofs.Call.MultiSend

/-!
# `SafeOps.Proofs.Deployment`: the bytes that deploy an account and the address it will have

A deployment promises an address, and the factory is called with bytes from which the account
comes about. Both are computed from the same parts, and whoever reads the bytes finds these
parts again: the code and the salt in the call of the factory, the owners in the data of the
setup, and the steps of the setup in the data of its one call. Each level is a call of a
contract function, so each is opened by `Abi.Function.decode_encode`; several steps are taken
apart by `Call.MultiSend.decode_encode`.

A layout is read back as long as its size fits 64 bits. All parts but the owners are of a fixed
size, so the only bound is on the number of owners (`length_factoryData_le`), and no list of
addresses that a computer can hold exceeds it.

`consistent_prepare` is the main statement. What has to be found is written down in
`setupSteps` and `Consistent`, as calls of contract functions with their arguments.
-/

set_option autoImplicit false

namespace SafeOps

/-- What a contract's address follows from where it is created from code under a salt. -/
def Address.IsCreated (deployer : Address) (salt : Hash) (code : Bytes) (a : Address) : Prop :=
  a.toBytes = (keccak256 ([0xFF] ++ deployer.toBytes ++ salt.toBytes
    ++ (keccak256 code).toBytes)).toBytes.drop 12

namespace Deployment

/-- The last 20 bytes of a hash are an address. -/
theorem isCreated_createdAddress (deployer : Address) (salt : Hash) (code : Bytes) :
    deployer.IsCreated salt code (createdAddress deployer salt (keccak256 code)) := by
  let hash := (keccak256 ([0xFF] ++ deployer.toBytes ++ salt.toBytes
    ++ (keccak256 code).toBytes)).toBytes
  have hlength : (hash.drop 12).length = 20 := by
    rw [List.length_drop, Hash.length_toBytes]
  have hread := Bytes.ofBits_toBits_append (hash.take 12) (hash.drop 12)
  rw [hlength, List.take_append_drop] at hread
  exact hread

/-! ### What an account does while it is set up -/

/-- A call of a contract function with its arguments. No value is sent along. -/
structure SetupStep where
  mode : CallMode
  target : Address
  function : Abi.Function
  arguments : Abi.Vals function.arguments

/-- The call performs the step: its data are read as the arguments of the function. -/
structure SetupStep.PerformedBy (s : SetupStep) (c : Call) : Prop where
  mode : c.mode = s.mode
  target : c.target = s.target
  value : c.value = 0
  data : s.function.decode c.data = .ok s.arguments

/-- The steps of a setup, in their order. The account runs the code of the helper that enables
the module and of the signer for passkeys; only the permission is a call. -/
def setupSteps (contracts : Contracts) (extras : SetupExtras) : List SetupStep :=
  ⟨.delegateCall, contracts.moduleSetup, Contract.enableModules, ([contracts.module], ())⟩
  :: (extras.approval.map fun a =>
      ⟨.call, a.token, Contract.approve, (a.spender, a.amount, ())⟩).toList
  ++ (extras.passkey.map fun configuration =>
      ⟨.delegateCall, contracts.sharedSigner, Contract.configure, (configuration, ())⟩).toList

def SetupStep.toCall (s : SetupStep) : Call :=
  ⟨s.target, 0, s.function.encode s.arguments, s.mode⟩

/-- There are three kinds of steps. -/
theorem forall_setupSteps {contracts : Contracts} {extras : SetupExtras} {P : SetupStep → Prop}
    (henable : P ⟨.delegateCall, contracts.moduleSetup, Contract.enableModules,
      ([contracts.module], ())⟩)
    (happrove : ∀ g : Approval,
      P ⟨.call, g.token, Contract.approve, (g.spender, g.amount, ())⟩)
    (hconfigure : ∀ configuration,
      P ⟨.delegateCall, contracts.sharedSigner, Contract.configure, (configuration, ())⟩) :
    ∀ s ∈ setupSteps contracts extras, P s := by
  intro s hs
  simp only [setupSteps, List.cons_append, List.mem_cons, List.mem_append, Option.mem_toList,
    Option.map_eq_some_iff] at hs
  rcases hs with rfl | ⟨g, -, rfl⟩ | ⟨configuration, -, rfl⟩
  · exact henable
  · exact happrove g
  · exact hconfigure configuration

theorem setupCalls_eq (contracts : Contracts) (extras : SetupExtras) :
    setupCalls contracts extras = (setupSteps contracts extras).map SetupStep.toCall := by
  obtain ⟨approval, passkey⟩ := extras
  cases approval <;> cases passkey <;> rfl

/-! ### Sizes -/

theorem length_pad32_le (bs : Bytes) : (Bytes.pad32 bs).length ≤ bs.length + 31 := by
  rw [Bytes.pad32, List.length_append, Bytes.length_zeros]
  omega

/-- All steps take so few arguments that their data are short. -/
theorem length_step_le {contracts : Contracts} {extras : SetupExtras} {s : SetupStep}
    (hs : s ∈ setupSteps contracts extras) : (s.function.encode s.arguments).length ≤ 100 := by
  refine forall_setupSteps (P := fun s => (s.function.encode s.arguments).length ≤ 100)
    ?_ ?_ ?_ s hs
  · simp [Abi.Function.length_encode, Abi.headSize, Abi.Ty.headSize, Abi.tails, Abi.Ty.tail]
  · intro g
    simp [Abi.Function.length_encode, Abi.headSize, Abi.Ty.headSize, Abi.tails, Abi.Ty.tail]
  · intro configuration
    simp [Abi.Function.length_encode, Abi.headSize, Abi.Ty.headSize, Abi.tails, Abi.Ty.tail]

theorem length_setupSteps_le (contracts : Contracts) (extras : SetupExtras) :
    (setupSteps contracts extras).length ≤ 3 := by
  obtain ⟨approval, passkey⟩ := extras
  cases approval <;> cases passkey <;> simp [setupSteps]

theorem length_pack_toCall_le {steps : List SetupStep}
    (h : ∀ s ∈ steps, (s.function.encode s.arguments).length ≤ 100) :
    (Call.MultiSend.pack (steps.map SetupStep.toCall)).length ≤ 185 * steps.length := by
  induction steps with
  | nil => exact Nat.zero_le _
  | cons s steps ih =>
    have hfirst := h s List.mem_cons_self
    have hrest := ih fun s' hs' => h s' (List.mem_cons_of_mem s hs')
    have hcall : (Call.MultiSend.packOne s.toCall).length
        = 85 + (s.function.encode s.arguments).length := Call.MultiSend.length_packOne s.toCall
    rw [Call.MultiSend.pack] at hrest
    rw [Call.MultiSend.pack, List.map_cons, List.flatMap_cons, List.length_append, hcall,
      List.length_cons]
    omega

theorem length_multiSend_le (contracts : Contracts) (extras : SetupExtras) :
    (Call.MultiSend.encode (setupCalls contracts extras)).length ≤ 1000 := by
  have hsteps := length_setupSteps_le contracts extras
  have hpack := length_pack_toCall_le fun s hs => @length_step_le contracts extras s hs
  have hpad := length_pad32_le (Call.MultiSend.pack (setupCalls contracts extras))
  rw [setupCalls_eq] at hpad ⊢
  simp only [Call.MultiSend.encode, Abi.Function.length_encode, Abi.headSize, Abi.Ty.headSize,
    Abi.tails, Abi.Ty.tail, List.foldr_cons, List.foldr_nil, List.length_append,
    Abi.length_sizeBytes, List.length_nil]
  omega

/-- Whether there is one step or several, the one call of the setup takes data of a bounded
size. -/
theorem length_setupTarget_le (contracts : Contracts) (extras : SetupExtras) :
    (setupTarget contracts (setupCalls contracts extras)).2.length ≤ 1000 := by
  unfold setupTarget
  split
  · next c hc =>
    rw [setupCalls_eq] at hc
    obtain ⟨s, hs, rfl⟩ := List.mem_map.mp (hc ▸ List.mem_singleton_self c)
    have hstep := length_step_le hs
    show (s.function.encode s.arguments).length ≤ 1000
    omega
  · exact length_multiSend_le contracts extras

theorem length_initializer_le (contracts : Contracts) (owners : List Address)
    (threshold : BitVec 64) (extras : SetupExtras) :
    (initializer contracts owners threshold extras).length ≤ 32 * owners.length + 1400 := by
  have hdata := length_setupTarget_le contracts extras
  have hpad := length_pad32_le (setupTarget contracts (setupCalls contracts extras)).2
  have howners : (Abi.arrayBytes .address owners).length = 32 * owners.length :=
    Abi.length_arrayBytes .address owners
  rw [Abi.arrayBytes] at howners
  simp only [initializer, Abi.Function.length_encode, Abi.headSize, Abi.Ty.headSize, Abi.tails,
    Abi.Ty.tail, List.foldr_cons, List.foldr_nil, List.length_append, Abi.length_sizeBytes,
    List.length_nil, howners]
  omega

theorem length_factoryData_le (contracts : Contracts) (account : NewAccount)
    (extras : SetupExtras) (creationCode : Bytes) :
    (prepare contracts account extras creationCode).factoryData.length
      ≤ 32 * account.owners.length + 1700 := by
  have hdata := length_initializer_le contracts account.owners account.threshold extras
  have hpad := length_pad32_le (initializer contracts account.owners account.threshold extras)
  simp only [prepare, Abi.Function.length_encode, Abi.headSize, Abi.Ty.headSize, Abi.tails,
    Abi.Ty.tail, List.foldr_cons, List.foldr_nil, List.length_append, Abi.length_sizeBytes,
    List.length_nil]
  omega

/-! ### Reading the bytes -/

theorem setupTarget_of_extras {contracts : Contracts} {extras : SetupExtras}
    (h : extras.approval ≠ none ∨ extras.passkey ≠ none) :
    setupTarget contracts (setupCalls contracts extras)
      = (contracts.multiSend, Call.MultiSend.encode (setupCalls contracts extras)) := by
  obtain ⟨approval, passkey⟩ := extras
  cases approval with
  | none =>
    cases passkey with
    | none => exact absurd h (by simp)
    | some configuration => rfl
  | some g => cases passkey <;> rfl

theorem performedBy_toCall {contracts : Contracts} {extras : SetupExtras} {s : SetupStep}
    (hs : s ∈ setupSteps contracts extras) : s.PerformedBy s.toCall := by
  have hexact : ∀ t ∈ s.function.arguments, t.Exact := by
    have henable : ∀ t ∈ Contract.enableModules.arguments, t.Exact := by decide
    have happrove : ∀ t ∈ Contract.approve.arguments, t.Exact := by decide
    have hconfigure : ∀ t ∈ Contract.configure.arguments, t.Exact := by decide
    exact forall_setupSteps (P := fun s => ∀ t ∈ s.function.arguments, t.Exact) henable
      (fun _ => happrove) (fun _ => hconfigure) s hs
  have hlength : (s.function.encode s.arguments).length < limit 64 :=
    Nat.lt_of_le_of_lt (length_step_le hs) (by decide)
  have hread := Abi.Function.decode_encode hexact s.arguments [] hlength
  rw [List.append_nil] at hread
  exact ⟨rfl, rfl, rfl, hread⟩

/-- What a deployment says about the account, and what its bytes say when they are read. -/
structure Consistent (contracts : Contracts) (account : NewAccount) (extras : SetupExtras)
    (creationCode : Bytes) (d : Deployment) : Prop where
  owners : d.owners = account.owners
  threshold : d.threshold = account.threshold
  factory : d.factory = contracts.proxyFactory
  bytes : ∃ singleton initializer target data,
    Contract.createProxyWithNonce.decode d.factoryData
        = .ok (singleton, initializer, account.saltNonce, ())
      ∧ singleton = (match account.flavour with
        | .canonical => contracts.singleton
        | .layer2 => contracts.singletonL2)
      -- The factory deploys the singleton's proxy at the address that was promised.
      ∧ d.factory.IsCreated
        (keccak256 ((keccak256 initializer).toBytes ++ Bytes.ofBits 32 account.saltNonce))
        (creationCode ++ Bytes.ofBits 32 singleton.toWord) d.account
      -- The account is set up with the owners of the deployment.
      ∧ Contract.setup.decode initializer
        = .ok (d.owners, d.threshold.setWidth 256, target, data, contracts.module, .zero, 0,
            .zero, ())
      ∧ (extras.approval = none → extras.passkey = none →
        target = contracts.moduleSetup
          ∧ Contract.enableModules.decode data = .ok ([contracts.module], ()))
      ∧ (extras.approval ≠ none ∨ extras.passkey ≠ none →
        target = contracts.multiSend
          ∧ ∃ calls, Call.MultiSend.decode data = .ok calls
            ∧ List.Forall₂ SetupStep.PerformedBy (setupSteps contracts extras) calls)

/-- The bytes that deploy an account and the address it will have go together, for any
contracts, extras and code, and as many owners as a list can hold: each takes 20 bytes, of
which there are less than 2^63. -/
theorem consistent_prepare (contracts : Contracts) (account : NewAccount) (extras : SetupExtras)
    (creationCode : Bytes) (howners : 20 * account.owners.length < 2 ^ 63) :
    (prepare contracts account extras creationCode).Consistent contracts account extras
      creationCode := by
  have hfactory : (prepare contracts account extras creationCode).factoryData.length
      < limit 64 := by
    have hle := length_factoryData_le contracts account extras creationCode
    rw [limit_64]
    omega
  have hsetup : (initializer contracts account.owners account.threshold extras).length
      < limit 64 := by
    have hle := length_initializer_le contracts account.owners account.threshold extras
    rw [limit_64]
    omega
  refine ⟨rfl, rfl, rfl, singleton contracts account.flavour,
    initializer contracts account.owners account.threshold extras,
    (setupTarget contracts (setupCalls contracts extras)).1,
    (setupTarget contracts (setupCalls contracts extras)).2, ?_, ?_, ?_, ?_, ?_, ?_⟩
  · have hread := Abi.Function.decode_encode (f := Contract.createProxyWithNonce) (by decide) _ []
      hfactory
    rwa [List.append_nil] at hread
  · cases account.flavour <;> rfl
  · exact isCreated_createdAddress _ _ _
  · have hread := Abi.Function.decode_encode (f := Contract.setup) (by decide) _ [] hsetup
    rwa [List.append_nil] at hread
  · intro happroval hpasskey
    have hone : setupCalls contracts extras = [SetupStep.toCall ⟨.delegateCall,
        contracts.moduleSetup, Contract.enableModules, ([contracts.module], ())⟩] := by
      rw [setupCalls_eq, setupSteps, happroval, hpasskey]
      rfl
    have hstep := @performedBy_toCall contracts extras _ List.mem_cons_self
    rw [hone]
    exact ⟨rfl, hstep.data⟩
  · intro hextras
    have hmulti : (Call.MultiSend.encode (setupCalls contracts extras)).length < limit 64 :=
      Nat.lt_of_le_of_lt (length_multiSend_le contracts extras) (by decide)
    have hperformed : List.Forall₂ SetupStep.PerformedBy (setupSteps contracts extras)
        (setupCalls contracts extras) := by
      rw [setupCalls_eq, List.forall₂_map_right_iff, List.forall₂_same]
      exact fun s hs => performedBy_toCall hs
    rw [setupTarget_of_extras hextras]
    exact ⟨rfl, _, Call.MultiSend.decode_encode hmulti, hperformed⟩

/-- Two owners, a permission and a passkey. -/
theorem consistent_prepare_twoOwners :
    20 * [(⟨7⟩ : Address), ⟨6⟩].length < 2 ^ 63
      ∧ (prepare (.canonical .v07) ⟨[⟨7⟩, ⟨6⟩], 2, 5, "1.4.1", .layer2⟩
          { approval := some ⟨⟨9⟩, ⟨8⟩, 1000⟩, passkey := some (1, 2, 3, ()) } [1, 2, 3]).Consistent
        (.canonical .v07) ⟨[⟨7⟩, ⟨6⟩], 2, 5, "1.4.1", .layer2⟩
        { approval := some ⟨⟨9⟩, ⟨8⟩, 1000⟩, passkey := some (1, 2, 3, ()) } [1, 2, 3] :=
  ⟨by decide, consistent_prepare _ _ _ _ (by decide)⟩

end Deployment

end SafeOps
