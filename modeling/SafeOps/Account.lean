import SafeOps.Analytics
import SafeOps.Deployment
import SafeOps.Pricing
import SafeOps.Rpc.Bundler
import SafeOps.SafeOperation.Record
import SafeOps.Signer

/-!
# `SafeOps.Account`: an account and what it works with

An `Account` is set up once (`Account.Opening`) and then prepares operations
(`Account.Preparation`), has them signed and hands them over (`Account.Submission`). It is
never changed.
-/

set_option autoImplicit false

namespace SafeOps

/-- Why an account and its surroundings do not go together. -/
inductive Incompatibility where
  /-- The entry point that shall be used does not go with the release. -/
  | entryPoint (address : Address) (generation : EntryPoint) (modules : Version)
  /-- The bundler has no entry point that goes with the release. -/
  | noEntryPoint (modules : Version)
  | notDeployed (account : Address)
  | oldAccount (version : Version)
  | moduleDisabled (module : Address)
  /-- The module is not the account's fallback handler. -/
  | noFallbackHandler (module : Address)
  deriving DecidableEq, Repr

/-- The reason in words. -/
def Incompatibility.message (i : Incompatibility) : String :=
  "Incompatibility detected: " ++
  match i with
  | .entryPoint address generation modules =>
    "entry point " ++ address.checksummed ++ " (" ++ generation.name
      ++ ") is not compatible with Safe modules version " ++ modules.text
  | .noEntryPoint modules =>
    "None of the entrypoints provided by the bundler is compatible with the Safe modules version "
      ++ modules.text
  | .notDeployed account => "no Safe is deployed at " ++ account.checksummed
  | .oldAccount version =>
    "Safe version " ++ version.text ++ " is not supported, the minimum is "
      ++ Config.minimalAccountVersion.text
  | .moduleDisabled module =>
    "The EIP-4337 module is not enabled in the provided Safe Account. "
      ++ "Enable this module (address: " ++ module.checksummed ++ ") to add compatibility."
  | .noFallbackHandler module =>
    "The EIP-4337 fallbackhandler is not attached to the Safe Account. "
      ++ "Attach this fallbackhandler (address: " ++ module.checksummed
      ++ ") to ensure compatibility."

/-- In what an operation belongs elsewhere. -/
inductive Foreignness where
  | sender (found account : Address)
  | entryPoint (found own : Address)
  | chain (found own : BitVec 64)
  deriving DecidableEq, Repr

/-- The difference in words. -/
def Foreignness.message : Foreignness → String
  | .sender found account =>
    "sender " ++ found.checksummed ++ " is not Safe " ++ account.checksummed
  | .entryPoint found own =>
    "EntryPoint " ++ found.checksummed ++ " is not " ++ own.checksummed
  | .chain found own =>
    "chain " ++ Quantity.decimal found ++ " is not " ++ Quantity.decimal own

/-- Why options were refused. -/
inductive OptionsFault where
  /-- Another token than the deployment of the account lets the paymaster take. -/
  | token (token approved : Address)
  | noOwner
  /-- The threshold is zero or larger than the number of owners. -/
  | threshold (threshold : BitVec 64) (owners : Nat)
  | noPaymaster
  deriving DecidableEq, Repr

/-- The fault in words. -/
def OptionsFault.message : OptionsFault → String
  | .token chosen approved =>
    "gas token " ++ chosen.checksummed ++ " differs from " ++ approved.checksummed
      ++ ", approved by the pending deployment"
  | .noOwner => "a new Safe needs at least one owner"
  | .threshold needed owners =>
    "threshold " ++ Quantity.decimal needed ++ " is not within 1..=" ++ toString owners
  | .noPaymaster => "no paymaster configured"

/-- Why an account could not do what it was asked. -/
inductive AccountError where
  | incompatible (reason : Incompatibility)
  | notOwner (signer account : Address)
  /-- The signer supports no method to sign. -/
  | noMethod (signer : Address)
  | foreign (reason : Foreignness)
  | calls (error : CallError)
  | pricing (error : PricingError)
  /-- The bundler refused an operation. -/
  | rejected (error : RpcError)
  | config (error : ConfigError)
  | options (fault : OptionsFault)
  | node (error : NodeError)
  | operation (error : OperationError)
  | signer (error : SignerError)
  | rpc (error : RpcError)
  /-- Any other failure, in words. -/
  | other (message : String)
  deriving DecidableEq, Repr

/-- The error in words. -/
def AccountError.message : AccountError → String
  | .incompatible reason => reason.message
  | .notOwner owner account =>
    "signer " ++ owner.checksummed ++ " is not an owner of Safe " ++ account.checksummed
  | .noMethod owner => noMethodMessage owner
  | .foreign reason => "operation does not belong to this account: " ++ reason.message
  | .calls error => error.message
  | .pricing error => error.message
  | .rejected error => "user operation rejected: " ++ error.message
  | .config error => error.message
  | .options fault => "invalid options: " ++ fault.message
  | .node error => error.message
  | .operation error => error.message
  | .signer error => error.message
  | .rpc error => error.message
  | .other message => message

/-- Which account is meant. -/
inductive AccountChoice where
  /-- One that is deployed. -/
  | existing (address : Address)
  /-- One that its first operation deploys. -/
  | new (account : NewAccount)
  deriving DecidableEq, Repr

/-- What an account is set up from. -/
structure AccountConfig where
  node : Node
  /-- The owner that signs. -/
  signer : Signer
  bundlerUrl : String
  /-- The release of the module contracts, if not the usual one. -/
  modulesVersion : Option String := none
  overrides : Overrides := {}
  choice : AccountChoice
  payment : Option Payment := none
  analytics : Option Analytics := none
  /-- Where the contracts are, if not at the canonical addresses. -/
  registry : Option Registry := none
  estimator : Option Estimator := none
  /-- Gas for the validation that each signature takes besides the first estimate. -/
  overhead : BitVec 64 := 10000

/-- An account and what it works with. -/
structure Account where
  node : Node
  signer : Signer
  bundler : Endpoint
  estimator : Estimator
  chainId : BitVec 64
  address : Address
  contracts : Contracts
  entryPoint : Address
  /-- How the account is deployed, if it was not there when it was set up. -/
  deployment : Option Deployment
  payment : Option Payment
  /-- What is appended to the data of every operation. -/
  mark : Option Bytes
  overhead : BitVec 64

namespace Account

/-- The module that the messages of an account's methods name. -/
def logModule : String := "Safe4337Pack"

/-- Asks the node. -/
def readNode (node : Node) (question : NodeQuery) : Attempt AccountError question.Answer :=
  Attempt.mapError .node (node.read question)

end Account

end SafeOps
