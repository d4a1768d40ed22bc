import SafeOps.Contract
import SafeOps.Rpc.Client

/-!
# `SafeOps.Node.Remote`: a node behind a service

`Node.remote` answers the questions of `NodeQuery` by asking a service: some have a method
of their own, and the others are calls of contract functions whose results are read.

A `Node` is anything that answers those questions; `Node.external` leaves them to the
world.
-/

set_option autoImplicit false

namespace SafeOps

/-- Something that answers questions to a node. -/
structure Node where
  read : (question : NodeQuery) → Attempt NodeError question.Answer

namespace Node

/-- The node of the world outside. -/
def external : Node where
  read question := Attempt.ofProgram (Program.query (.node question))

/-- Calls a method of a node's service. -/
def method {α : Type} (service : Endpoint) (name : String) (params : List Json)
    (read : Json → Option α) : Attempt NodeError α :=
  Attempt.mapError .rpc (Rpc.ask service name (.arr params) read)

/-- The block whose state is asked for. -/
def latest : Json := .str "latest"

/-- Calls a function of a contract and reads its one result. -/
def call (service : Endpoint) (target : Address) (f : Abi.Function) (data : Bytes)
    (result : Abi.Ty) : Attempt NodeError result.Val := do
  let request := Json.obj [("to", Json.ofAddress target), ("data", Json.ofBytes data)]
  let output ← method service "eth_call" [request, latest] Json.toBytes
  match Abi.decode [result] output with
  | .ok (value, _) => return value
  | .error fault => throw (.unexpected (.result f.signature fault))

/-- The node behind a service. -/
def remoteRead (service : Endpoint) : (question : NodeQuery) → Attempt NodeError question.Answer
  | .chainId => method service "eth_chainId" [] (Json.toQuantity 64)
  | .isDeployed address => do
    let code ← method service "eth_getCode" [Json.ofAddress address, latest] Json.toBytes
    return !code.isEmpty
  | .owners account =>
    call service account Contract.getOwners (Contract.getOwners.encode ()) (.array .address)
  | .threshold account => do
    let value ← call service account Contract.getThreshold (Contract.getThreshold.encode ())
      (.scalar (.uint 256))
    if value.toNat < limit 64 then return value.setWidth 64
    else throw (.unexpected (.threshold value))
  | .version account =>
    call service account Contract.version (Contract.version.encode ()) .string
  | .isModuleEnabled account module =>
    call service account Contract.isModuleEnabled (Contract.isModuleEnabled.encode (module, ()))
      (.scalar .bool)
  | .fallbackHandler account => do
    let word ← method service "eth_getStorageAt"
      [Json.ofAddress account, Json.ofHash Contract.fallbackHandlerSlot, latest] Json.toHash
    -- The slot holds a whole word, of which the address is the low end.
    return Address.ofWord word.bits
  | .nonce entryPoint sender key =>
    call service entryPoint Contract.getNonce (Contract.getNonce.encode (sender, key, ()))
      (.scalar (.uint 256))
  | .creationCode factory =>
    call service factory Contract.proxyCreationCode (Contract.proxyCreationCode.encode ()) .bytes
  | .gasPrice => method service "eth_gasPrice" [] (Json.toQuantity 256)
  | .maxPriorityFee => method service "eth_maxPriorityFeePerGas" [] (Json.toQuantity 256)

/-- The node behind a service. -/
def remote (service : Endpoint) : Node where
  read := remoteRead service

end Node

end SafeOps
