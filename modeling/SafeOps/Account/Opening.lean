import SafeOps.Account

/-!
# `SafeOps.Account.Opening`: setting an account up

An account is set up in steps, each of which may find that things do not go together: the
bundler's URL, the chain, the release of the module contracts and the entry point it was
built for, the addresses of the contracts, the entry point that is used, and at last the
account itself. An account that exists has to be of a recent version, obey the module and
have it as its fallback handler; a new one has to have owners and a threshold they can
meet.
-/

set_option autoImplicit false

namespace SafeOps.Account

/-- The release of the module contracts that is used unless another one is named. -/
def defaultModules : String := "0.3.0"

/-- Takes over a result about the configuration. -/
def ofConfig {α : Type} (x : Except ConfigError α) : Attempt AccountError α :=
  Attempt.ofExcept (x.mapError .config)

/-- Checks that an entry point goes with a release that was built for `required`. -/
def checkForced (forced : Address) (required : EntryPoint) (modules : Version) :
    Except AccountError Address :=
  match EntryPoint.ofAddress forced with
  | .error e => .error (.config e)
  | .ok generation =>
    if generation = required then .ok forced
    else .error (.incompatible (.entryPoint forced generation modules))

/-- The first of a bundler's entry points that belongs to a generation. -/
def firstEntryPoint (required : EntryPoint) (offered : List Address) : Option Address :=
  offered.find? fun a =>
    match EntryPoint.ofAddress a with
    | .ok generation => generation = required
    | .error _ => false

/-- The entry point to use: the one that shall be used, or one of the bundler's. -/
def selectEntryPoint (bundler : Endpoint) (forced : Option Address) (required : EntryPoint)
    (modules : Version) : Attempt AccountError Address :=
  match forced with
  | some address => Attempt.ofExcept (checkForced address required modules)
  | none => do
    let offered ← Attempt.mapError .rpc (Rpc.Bundler.entryPoints bundler)
    match firstEntryPoint required offered with
    | some address => return address
    | none => throw (.incompatible (.noEntryPoint modules))

/-- Checks that an account's version is recent enough. -/
def checkVersion (text : String) : Except AccountError Unit :=
  match Config.version text with
  | .error e => .error (.config e)
  | .ok version =>
    if version.atLeast Config.minimalAccountVersion then .ok ()
    else .error (.incompatible (.oldAccount version))

/-- Checks an account that exists. -/
def checkExisting (node : Node) (account : Address) (contracts : Contracts) :
    Attempt AccountError Unit := do
  -- The questions are asked one by one: there is no use in asking for the version of an
  -- account that is not there.
  if !(← readNode node (.isDeployed account)) then
    throw (.incompatible (.notDeployed account))
  Attempt.ofExcept (checkVersion (← readNode node (.version account)))
  if !(← readNode node (.isModuleEnabled account contracts.module)) then
    throw (.incompatible (.moduleDisabled contracts.module))
  if (← readNode node (.fallbackHandler account)) ≠ contracts.module then
    throw (.incompatible (.noFallbackHandler contracts.module))

/-- The owners of a new account: a passkey signs through the shared signer, which has to be
one of them. -/
def ownersWith (signer : Signer) (sharedSigner : Address) (owners : List Address) :
    List Address :=
  if signer.isPasskey && !owners.contains sharedSigner then owners ++ [sharedSigner] else owners

/-- What a new account does while it is set up, for the sake of its signer and of a
paymaster. -/
def extrasFor (signer : Signer) (payment : Option Payment) : SetupExtras where
  approval := payment.bind Payment.approval
  passkey :=
    match signer with
    | .key _ => none
    | .passkey credential => some credential.configuration

/-- Checks the owners of a new account and their threshold. -/
def checkOwners (owners : List Address) (threshold : BitVec 64) : Except AccountError Unit :=
  if owners.isEmpty then .error (.options .noOwner)
  else if threshold = 0 ∨ owners.length < threshold.toNat then
    .error (.options (.threshold threshold owners.length))
  else .ok ()

/-- Prepares the deployment of a new account. -/
def prepareNew (node : Node) (signer : Signer) (contracts : Contracts) (account : NewAccount)
    (payment : Option Payment) : Attempt AccountError Deployment := do
  Attempt.ofExcept (checkVersion account.version)
  let owners := ownersWith signer contracts.sharedSigner account.owners
  Attempt.ofExcept (checkOwners owners account.threshold)
  let code ← readNode node (.creationCode contracts.proxyFactory)
  return Deployment.prepare contracts { account with owners } (extrasFor signer payment) code

/-- Finds or prepares the account itself. -/
def resolveChoice (c : AccountConfig) (contracts : Contracts) :
    Attempt AccountError (Address × Option Deployment) :=
  match c.choice with
  | .existing address => do
    checkExisting c.node address contracts
    return (address, none)
  | .new account => do
    let deployment ← prepareNew c.node c.signer contracts account c.payment
    Attempt.tell .info ("pack.init.counterfactual safe=" ++ deployment.account.checksummed
      ++ " threshold=" ++ Quantity.decimal deployment.threshold)
    return (deployment.account, some deployment)

/-- Sets an account up. -/
def init (c : AccountConfig) : Attempt AccountError Account := Attempt.within logModule do
  let bundler ← Attempt.ofExcept ((Rpc.connect c.bundlerUrl).mapError .rpc)
  let chainId ← readNode c.node .chainId
  let modules ← ofConfig (Config.version (c.modulesVersion.getD defaultModules))
  let required ← ofConfig (EntryPoint.ofModules modules)
  -- A registry of the caller replaces the canonical one and is not added to it.
  let registry := c.registry.getD (.canonical [chainId])
  let found ← ofConfig (registry.resolve chainId modules)
  let entryPoint ← selectEntryPoint bundler c.overrides.entryPoint required modules
  -- The entry point comes last: it was checked, and the one in the set need not go with
  -- the release.
  let contracts := { found.override c.overrides with entryPoint }
  Attempt.tell .info ("pack.init.entry_point_selected entry_point=" ++ entryPoint.checksummed
    ++ " version=" ++ required.name ++ " bundler=" ++ bundler.host)
  let (address, deployment) ← resolveChoice c contracts
  return {
    node := c.node
    signer := c.signer
    bundler
    estimator := c.estimator.getD (.ofNode c.node {})
    chainId
    address
    contracts
    entryPoint
    deployment
    payment := c.payment
    mark := c.analytics.map Analytics.identifier
    overhead := c.overhead }

end SafeOps.Account
