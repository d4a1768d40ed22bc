import SafeOps.Receipt
import SafeOps.Rpc.Client

/-!
# `SafeOps.Rpc.Bundler`: the service that takes operations

A bundler estimates the gas of operations, takes them, and tells what became of them. What
it does not know yet it answers with `null`.
-/

set_option autoImplicit false

namespace SafeOps.Rpc.Bundler

/-- The chain a bundler works on. -/
def chainId (service : Endpoint) : Attempt RpcError (BitVec 64) :=
  ask service "eth_chainId" (.arr []) (Json.toQuantity 64)

/-- The entry points a bundler works with. -/
def entryPoints (service : Endpoint) : Attempt RpcError (List Address) :=
  ask service "eth_supportedEntryPoints" (.arr []) (Json.toListOf Json.toAddress)

/-- The gas an operation takes. -/
def estimate (service : Endpoint) (op : UserOperation) (entryPoint : Address) :
    Attempt RpcError Estimation :=
  ask service "eth_estimateUserOperationGas" (.arr [op.toJson, Json.ofAddress entryPoint])
    Estimation.ofJson?

/-- Hands an operation over, and gives the hash the bundler knows it by. -/
def send (service : Endpoint) (op : UserOperation) (entryPoint : Address) :
    Attempt RpcError Hash :=
  ask service "eth_sendUserOperation" (.arr [op.toJson, Json.ofAddress entryPoint]) Json.toHash

/-- The operation with a hash, if the bundler knows it. -/
def lookup (service : Endpoint) (hash : Hash) : Attempt RpcError (Option Lookup) :=
  ask service "eth_getUserOperationByHash" (.arr [Json.ofHash hash])
    (Json.toOptionOf Lookup.ofJson?)

/-- What became of the operation with a hash, if anything. -/
def receipt (service : Endpoint) (hash : Hash) : Attempt RpcError (Option Receipt) :=
  ask service "eth_getUserOperationReceipt" (.arr [Json.ofHash hash])
    (Json.toOptionOf Receipt.ofJson?)

end SafeOps.Rpc.Bundler
