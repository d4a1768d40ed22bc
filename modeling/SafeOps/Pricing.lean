import SafeOps.Node.Remote
import SafeOps.Rpc.PaymasterService

/-!
# `SafeOps.Pricing`: what an operation offers for its gas

The gas of an operation is estimated by the bundler. Before, an `Estimator` finds out the
prices to offer and, if a paymaster comes in, rough fields of it; afterwards it gets the
paymaster's final fields for the estimated operation.

There are three estimators: one with prices of the node and a margin, one with prices of a
service, which also sponsors in one step, and one that does nothing.
-/

set_option autoImplicit false

namespace SafeOps

/-- Why an operation could not be priced. -/
inductive PricingError where
  | rpc (error : RpcError)
  | node (error : NodeError)
  /-- Any other failure, in words. -/
  | other (message : String)
  deriving DecidableEq, Repr

/-- The error in words. -/
def PricingError.message : PricingError → String
  | .rpc error => error.message
  | .node error => error.message
  | .other message => message

/-- What an estimator knows of an operation. -/
structure PricingContext where
  /-- The operation, with signatures of the right size. -/
  operation : UserOperation
  entryPoint : Address
  chainId : BitVec 64
  payment : Option Payment

/-- What happens before and after the bundler's estimate. -/
structure Estimator where
  before : PricingContext → Attempt PricingError Estimation
  after : PricingContext → Attempt PricingError Estimation

namespace Estimator

/-- The estimator that does nothing. -/
def none : Estimator where
  before _ := return .empty
  after _ := return .empty

/-- The service of a paymaster. -/
def service (payment : Payment) : Attempt PricingError Endpoint :=
  Attempt.ofExcept ((Rpc.connect payment.url).mapError .rpc)

/-- Rough fields of the paymaster. -/
def stub (server : Endpoint) (c : PricingContext) (payment : Payment) :
    Attempt PricingError Estimation :=
  Attempt.mapError .rpc
    (Rpc.PaymasterService.stubFields server c.operation c.entryPoint c.chainId payment.context)

/-- Final fields of the paymaster. -/
def final (server : Endpoint) (c : PricingContext) (payment : Payment) :
    Attempt PricingError Estimation := do
  Attempt.tell .debug ("fee_estimator.paymaster_data host=" ++ server.host)
  Attempt.mapError .rpc
    (Rpc.PaymasterService.finalFields server c.operation c.entryPoint c.chainId payment.context)

/-- Prices, with what they are made known by. -/
def pricesText (p : GasPrice) : String :=
  "max_fee_per_gas=" ++ Quantity.decimal p.maxFee ++ " max_priority_fee_per_gas="
    ++ Quantity.decimal p.maxPriorityFee

/-- The estimator with prices of a node and a margin. -/
def ofNode (node : Node) (margin : PriceMargin) : Estimator where
  before c := do
    let price ← Attempt.mapError .node (node.read .gasPrice)
    let tip ← Attempt.mapError .node (node.read .maxPriorityFee)
    let offer := margin.apply price tip
    Attempt.tell .debug ("fee_estimator.gas_price " ++ pricesText offer)
    match c.payment with
    | .none => return offer.toEstimation
    | .some payment => do
      let server ← service payment
      Attempt.tell .debug ("fee_estimator.paymaster_stub host=" ++ server.host)
      let fields ← stub server c payment
      return offer.toEstimation.overlay fields
  after c := do
    match c.payment with
    | .none => return .empty
    | .some payment => do
      let server ← service payment
      final server c payment

/-- The estimator with prices of a service. It takes the prices for those in a hurry. -/
def ofService (priceServer : Endpoint) : Estimator where
  before c := do
    let tiers ← Attempt.mapError .rpc (Rpc.PaymasterService.prices priceServer)
    Attempt.tell .debug ("fee_estimator.gas_price tier=fast " ++ pricesText tiers.fast)
    match c.payment with
    | .none => return tiers.fast.toEstimation
    | .some payment => do
      let server ← service payment
      let fields ← stub server c payment
      return tiers.fast.toEstimation.overlay fields
  after c := do
    match c.payment with
    | .none => return .empty
    | .some payment => do
      let server ← service payment
      if payment.isSponsored then
        Attempt.tell .debug ("fee_estimator.sponsor host=" ++ server.host)
        Attempt.mapError .rpc
          (Rpc.PaymasterService.sponsorFields server c.operation c.entryPoint payment.context)
      else final server c payment

end Estimator

end SafeOps
