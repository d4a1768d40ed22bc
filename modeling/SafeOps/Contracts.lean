import SafeOps.Call.Batch
import SafeOps.EntryPoint

/-!
# `SafeOps.Contracts`: where the contracts are

`Contracts` names every contract an account works with. `Contracts.canonical` are the
deployments at the same addresses on all chains, one set per entry point generation.
`Overrides` replaces single addresses of a set.

`Registry` tells which set is used on which chain with which release of the module
contracts. Of two entries for the same pair the later one counts.
-/

set_option autoImplicit false

namespace SafeOps

/-- The contracts an account works with. -/
structure Contracts where
  /-- The module that lets an account take part in user operations. -/
  module : Address
  /-- Enables modules while an account is set up. -/
  moduleSetup : Address
  entryPoint : Address
  proxyFactory : Address
  /-- The code of an account. -/
  singleton : Address
  /-- The code of an account that reports every call as an event. -/
  singletonL2 : Address
  multiSend : Address
  multiSendCallOnly : Address
  /-- The owner that stands for the passkeys of all accounts. -/
  sharedSigner : Address
  deriving DecidableEq, Repr

/-- Addresses to use in place of those of a set. -/
structure Overrides where
  module : Option Address := none
  moduleSetup : Option Address := none
  entryPoint : Option Address := none
  proxyFactory : Option Address := none
  singleton : Option Address := none
  multiSend : Option Address := none
  multiSendCallOnly : Option Address := none
  sharedSigner : Option Address := none
  deriving DecidableEq, Repr

namespace Contracts

/-- The deployments at the same addresses on all chains, for an entry point generation. -/
def canonical (entryPoint : EntryPoint) : Contracts where
  module :=
    match entryPoint with
    | .v06 => ⟨0xa581c4A4DB7175302464fF3C06380BC3270b4037⟩
    | .v07 => ⟨0x75cf11467937ce3F2f357CE24ffc3DBF8fD5c226⟩
  moduleSetup :=
    match entryPoint with
    | .v06 => ⟨0x8EcD4ec46D4D2a6B64fE960B3D64e8B94B2234eb⟩
    | .v07 => ⟨0x2dd68b007B46fBe91B9A7c3EDa5A7a1063cB5b47⟩
  entryPoint := entryPoint.address
  proxyFactory := ⟨0x4e1DCf7AD4e460CfD30791CCC4F9c8a4f820ec67⟩
  singleton := ⟨0x41675C099F32341bf84BFc5382aF534df5C7461a⟩
  singletonL2 := ⟨0x29fcB43b46531BcA003ddC8FCB67FFE91900C762⟩
  multiSend := ⟨0x38869bf66a61cF6bDB996A6aE40D5853Fd43B526⟩
  multiSendCallOnly := ⟨0x9641d764fc13c8B624c04430C7356C1C7C8102e2⟩
  sharedSigner := ⟨0x94a4F6affBd8975951142c3999aEAB7ecee555c2⟩

/-- The set with some addresses replaced. -/
def override (c : Contracts) (o : Overrides) : Contracts where
  module := o.module.getD c.module
  moduleSetup := o.moduleSetup.getD c.moduleSetup
  entryPoint := o.entryPoint.getD c.entryPoint
  proxyFactory := o.proxyFactory.getD c.proxyFactory
  singleton := o.singleton.getD c.singleton
  -- There is no way to replace the code that reports events.
  singletonL2 := c.singletonL2
  multiSend := o.multiSend.getD c.multiSend
  multiSendCallOnly := o.multiSendCallOnly.getD c.multiSendCallOnly
  sharedSigner := o.sharedSigner.getD c.sharedSigner

/-- The contracts that perform several calls. -/
def batchers (c : Contracts) : Call.Batchers :=
  ⟨c.multiSend, c.multiSendCallOnly⟩

end Contracts

/-- The contracts used on a chain with a release of the module contracts, newest entry
first. -/
structure Registry where
  entries : List ((BitVec 64 × Version) × Contracts)

namespace Registry

/-- The registry without entries. -/
def empty : Registry := ⟨[]⟩

/-- Adds an entry, or replaces the one for the same chain and release. -/
def insert (r : Registry) (chainId : BitVec 64) (modules : Version) (contracts : Contracts) :
    Registry :=
  ⟨((chainId, modules), contracts) :: r.entries⟩

/-- The canonical deployments of both supported releases on the given chains. -/
def canonical (chainIds : List (BitVec 64)) : Registry :=
  chainIds.foldl
    (fun r chainId =>
      (r.insert chainId (.release 0 2 0) (.canonical .v06)).insert chainId (.release 0 3 0)
        (.canonical .v07))
    empty

/-- The contracts to use on a chain with a release. -/
def resolve (r : Registry) (chainId : BitVec 64) (modules : Version) :
    Except ConfigError Contracts :=
  match r.entries.lookup (chainId, modules) with
  | some contracts => .ok contracts
  | none => .error (.unknownDeployment chainId modules)

theorem resolve_insert (r : Registry) (chainId : BitVec 64) (modules : Version)
    (contracts : Contracts) :
    (r.insert chainId modules contracts).resolve chainId modules = .ok contracts := by
  simp [resolve, insert]

end Registry

end SafeOps
