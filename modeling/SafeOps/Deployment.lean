import SafeOps.Call.MultiSend
import SafeOps.Contracts
import SafeOps.Payment

/-!
# `SafeOps.Deployment`: accounts that do not exist yet

A new account is deployed by a factory during its first operation. Its address is known
before: it follows from the factory, the code of the account, the data the account is set
up with and a number chosen freely.

While it is set up the account runs code on its own behalf: it enables the module, and if
need be allows a paymaster to take a token and stores the public key of a passkey. One
such step is run directly, several go through the batching contract.
-/

set_option autoImplicit false

namespace SafeOps

/-- Which code a new account has. -/
inductive Flavour where
  | canonical
  /-- The code that reports every call as an event. -/
  | layer2
  deriving DecidableEq, Repr

/-- What an account does while it is set up, besides enabling the module. -/
structure SetupExtras where
  approval : Option Approval := none
  /-- The public key of a passkey and the contracts that check it. -/
  passkey : Option (Word × Word × BitVec 176 × Unit) := none

/-- What a new account shall be. -/
structure NewAccount where
  owners : List Address
  /-- How many owners have to sign. -/
  threshold : BitVec 64
  /-- The number that tells accounts apart that are otherwise equal. -/
  saltNonce : Word
  /-- The version of the account's code. -/
  version : String
  flavour : Flavour
  deriving DecidableEq, Repr

/-- How a new account is deployed. -/
structure Deployment where
  /-- The address the account will have. -/
  account : Address
  factory : Address
  /-- What the factory is called with. -/
  factoryData : Bytes
  owners : List Address
  threshold : BitVec 64
  deriving DecidableEq, Repr

namespace Deployment

/-- What an account does while it is set up. -/
def setupCalls (contracts : Contracts) (extras : SetupExtras) : List Call :=
  .delegate contracts.moduleSetup (Contract.enableModules.encode ([contracts.module], ()))
    :: (extras.approval.map Approval.toCall).toList
    ++ (extras.passkey.map fun configuration =>
        Call.delegate contracts.sharedSigner (Contract.configure.encode (configuration, ()))).toList

/-- The code an account runs while it is set up: whose code, and with which data. -/
def setupTarget (contracts : Contracts) : List Call → Address × Bytes
  | [c] => (c.target, c.data)
  | calls => (contracts.multiSend, Call.MultiSend.encode calls)

/-- The data an account is set up with. -/
def initializer (contracts : Contracts) (owners : List Address) (threshold : BitVec 64)
    (extras : SetupExtras) : Bytes :=
  let (target, data) := setupTarget contracts (setupCalls contracts extras)
  Contract.setup.encode
    (owners, threshold.setWidth 256, target, data, contracts.module, .zero, 0, .zero, ())

/-- The code of a new account. -/
def singleton (contracts : Contracts) : Flavour → Address
  | .canonical => contracts.singleton
  | .layer2 => contracts.singletonL2

/-- The address of a contract that `deployer` creates from `code` under `salt`. -/
def createdAddress (deployer : Address) (salt code : Hash) : Address :=
  .ofBytes (keccak256 ([0xFF] ++ deployer.toBytes ++ salt.toBytes ++ code.toBytes)).toBytes

/-- The address of the account a factory deploys. -/
def predict (factory singleton : Address) (initializer : Bytes) (saltNonce : Word)
    (creationCode : Bytes) : Address :=
  -- The owners are part of the salt through the data of the setup, not part of the code.
  let salt := keccak256 ((keccak256 initializer).toBytes ++ Bytes.ofBits 32 saltNonce)
  let code := keccak256 (creationCode ++ Bytes.ofBits 32 singleton.toWord)
  createdAddress factory salt code

/-- How a new account is deployed. `creationCode` is what its factory runs. -/
def prepare (contracts : Contracts) (account : NewAccount) (extras : SetupExtras)
    (creationCode : Bytes) : Deployment :=
  let data := initializer contracts account.owners account.threshold extras
  let code := singleton contracts account.flavour
  { account := predict contracts.proxyFactory code data account.saltNonce creationCode
    factory := contracts.proxyFactory
    factoryData := Contract.createProxyWithNonce.encode (code, data, account.saltNonce, ())
    owners := account.owners
    threshold := account.threshold }

end Deployment

end SafeOps
