import SafeOps.GasPrice
import SafeOps.Payment
import SafeOps.Rpc.Client
import SafeOps.UserOperation.Codec

/-!
# `SafeOps.Rpc.PaymasterService`: the service behind a paymaster

A paymaster's service quotes for an operation in two steps: rough fields first, good
enough to estimate gas with, and final ones for the estimated operation. Some services
also sponsor operations in one step, know gas prices, and tell what a token is worth.
-/

set_option autoImplicit false

namespace SafeOps

namespace GasPrice

/-- Reads prices. -/
def ofJson? (j : Json) : Option GasPrice := do
  let members ← Json.toRecord ["maxFeePerGas", "maxPriorityFeePerGas"] j
  return {
    maxFee := ← Json.required members "maxFeePerGas" (Json.toQuantity 256)
    maxPriorityFee := ← Json.required members "maxPriorityFeePerGas" (Json.toQuantity 256) }

/-- Writes prices. -/
def toJson (p : GasPrice) : Json :=
  .obj [
    ("maxFeePerGas", Json.ofQuantity p.maxFee),
    ("maxPriorityFeePerGas", Json.ofQuantity p.maxPriorityFee)]

/-- The estimation that knows these prices and nothing else. -/
def toEstimation (p : GasPrice) : Estimation :=
  { maxFee := some p.maxFee, maxPriorityFee := some p.maxPriorityFee }

end GasPrice

/-- Prices for operations in more or less of a hurry. -/
structure PriceTiers where
  slow : GasPrice
  standard : GasPrice
  fast : GasPrice
  deriving DecidableEq, Repr

namespace PriceTiers

/-- Reads prices. -/
def ofJson? (j : Json) : Option PriceTiers := do
  let members ← Json.toRecord ["slow", "standard", "fast"] j
  return {
    slow := ← Json.required members "slow" GasPrice.ofJson?
    standard := ← Json.required members "standard" GasPrice.ofJson?
    fast := ← Json.required members "fast" GasPrice.ofJson? }

/-- Writes prices. -/
def toJson (t : PriceTiers) : Json :=
  .obj [
    ("slow", t.slow.toJson), ("standard", t.standard.toJson), ("fast", t.fast.toJson)]

end PriceTiers

/-- What a token is worth to a paymaster. -/
structure TokenQuote where
  paymaster : Address
  token : Address
  /-- Gas the paymaster takes after the execution. -/
  postOpGas : Word
  /-- Units of the token for the native unit, times 10^18. -/
  rate : Word
  /-- The worth of the native unit in dollars. -/
  nativeToUsd : Option Word
  deriving DecidableEq, Repr

namespace TokenQuote

/-- The keys, in the order of their declaration. -/
def keys : List String :=
  ["paymaster", "token", "postOpGas", "exchangeRate", "exchangeRateNativeToUsd"]

/-- Reads a quote. -/
def ofJson? (j : Json) : Option TokenQuote := do
  let members ← Json.toRecord keys j
  return {
    paymaster := ← Json.required members "paymaster" Json.toAddress
    token := ← Json.required members "token" Json.toAddress
    postOpGas := ← Json.required members "postOpGas" (Json.toQuantity 256)
    rate := ← Json.required members "exchangeRate" (Json.toQuantity 256)
    nativeToUsd := ← Json.optional members "exchangeRateNativeToUsd" (Json.toQuantity 256) }

/-- Writes a quote. -/
def toJson (q : TokenQuote) : Json :=
  .obj [
    ("paymaster", Json.ofAddress q.paymaster),
    ("token", Json.ofAddress q.token),
    ("postOpGas", Json.ofQuantity q.postOpGas),
    ("exchangeRate", Json.ofQuantity q.rate),
    ("exchangeRateNativeToUsd", Json.orNull Json.ofQuantity q.nativeToUsd)]

/-- Reads quotes from the record they come in. -/
def listOfJson? (j : Json) : Option (List TokenQuote) := do
  let members ← Json.toRecord ["quotes"] j
  Json.required members "quotes" (Json.toListOf ofJson?)

end TokenQuote

namespace Rpc.PaymasterService

/-- The prices to offer. -/
def prices (service : Endpoint) : Attempt RpcError PriceTiers :=
  ask service "pimlico_getUserOperationGasPrice" (.arr []) PriceTiers.ofJson?

/-- What tokens are worth. -/
def quotes (service : Endpoint) (tokens : List Address) (entryPoint : Address)
    (chainId : BitVec 64) : Attempt RpcError (List TokenQuote) :=
  ask service "pimlico_getTokenQuotes"
    (.arr [.obj [("tokens", .arr (tokens.map Json.ofAddress))], Json.ofAddress entryPoint,
      Json.ofQuantity chainId])
    TokenQuote.listOfJson?

/-- Rough fields of the paymaster for an operation. -/
def stubFields (service : Endpoint) (op : UserOperation) (entryPoint : Address) (chainId : BitVec 64)
    (context : PaymentContext) : Attempt RpcError Estimation :=
  ask service "pm_getPaymasterStubData"
    (.arr [op.toJson, Json.ofAddress entryPoint, Json.ofQuantity chainId, context.toJson])
    Estimation.ofJson?

/-- Final fields of the paymaster for an operation. -/
def finalFields (service : Endpoint) (op : UserOperation) (entryPoint : Address) (chainId : BitVec 64)
    (context : PaymentContext) : Attempt RpcError Estimation :=
  ask service "pm_getPaymasterData"
    (.arr [op.toJson, Json.ofAddress entryPoint, Json.ofQuantity chainId, context.toJson])
    Estimation.ofJson?

/-- Final fields of a sponsor for an operation, with the gas the sponsor grants. -/
def sponsorFields (service : Endpoint) (op : UserOperation) (entryPoint : Address)
    (context : PaymentContext) : Attempt RpcError Estimation :=
  ask service "pm_sponsorUserOperation"
    (.arr [op.toJson, Json.ofAddress entryPoint, context.toJson]) Estimation.ofJson?

end Rpc.PaymasterService

end SafeOps
