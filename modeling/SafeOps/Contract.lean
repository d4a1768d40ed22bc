import SafeOps.Abi

/-!
# `SafeOps.Contract`: the functions this library calls

The account and its proxy factory, the module that lets the account take part in user
operations, the entry point, the contract that runs several calls in one, tokens, and
the signer that several accounts share to check passkeys.
-/

set_option autoImplicit false

namespace SafeOps.Contract

open Abi (Function Ty Scalar)

/-- The argument type of an address. -/
abbrev address : Ty := .scalar .address

/-- The argument type of a number. -/
abbrev uint (bits : Nat) : Ty := .scalar (.uint bits)

/-! ## The account -/

/-- Sets a new account up: owners, threshold, a call to delegate to (target and data),
the fallback handler, and what to pay for the deployment (token, amount, receiver). -/
abbrev setup : Function :=
  ⟨"setup", [.array .address, uint 256, address, .bytes, address, address, uint 256, address]⟩

/-- The owners of an account. -/
abbrev getOwners : Function := ⟨"getOwners", []⟩

/-- How many owners have to sign. -/
abbrev getThreshold : Function := ⟨"getThreshold", []⟩

/-- Whether an account obeys a module. -/
abbrev isModuleEnabled : Function := ⟨"isModuleEnabled", [address]⟩

/-- The words of an account's storage, from a slot on. -/
abbrev getStorageAt : Function := ⟨"getStorageAt", [uint 256, uint 256]⟩

/-- The version of an account. -/
abbrev version : Function := ⟨"VERSION", []⟩

/-- The storage slot of an account that holds its fallback handler. -/
def fallbackHandlerSlot : Hash :=
  keccak256 (Bytes.ofText "fallback_manager.handler.address")

/-! ## The module -/

/-- Has the account perform a call: target, value, data and mode. -/
abbrev executeUserOp : Function := ⟨"executeUserOp", [address, uint 256, .bytes, uint 8]⟩

/-- The same, passing on the reason when the call fails. -/
abbrev executeUserOpWithErrorString : Function :=
  ⟨"executeUserOpWithErrorString", [address, uint 256, .bytes, uint 8]⟩

/-- Enables modules of an account that is being set up. -/
abbrev enableModules : Function := ⟨"enableModules", [.array .address]⟩

/-! ## The proxy factory -/

/-- Deploys an account: singleton, initializer and salt nonce. -/
abbrev createProxyWithNonce : Function := ⟨"createProxyWithNonce", [address, .bytes, uint 256]⟩

/-- The code that deploys an account, to be followed by the singleton. -/
abbrev proxyCreationCode : Function := ⟨"proxyCreationCode", []⟩

/-! ## The entry point -/

/-- The next nonce of a sender in a lane. -/
abbrev getNonce : Function := ⟨"getNonce", [address, uint 192]⟩

/-! ## Batches, tokens, passkeys -/

/-- Performs several calls, given in packed form. -/
abbrev multiSend : Function := ⟨"multiSend", [.bytes]⟩

/-- Sends tokens to a receiver. -/
abbrev transfer : Function := ⟨"transfer", [address, uint 256]⟩

/-- Lets a spender take tokens. -/
abbrev approve : Function := ⟨"approve", [address, uint 256]⟩

/-- Stores the public key of an account's passkey and the verifiers it is checked with. -/
abbrev configure : Function := ⟨"configure", [.tuple [.uint 256, .uint 256, .uint 176]]⟩

end SafeOps.Contract
