import SafeOps.Account

/-!
# `SafeOps.Account.Preparation`: from calls to an operation

Calls become the data of one operation, with the permission for a paymaster in front if
need be and the mark behind. An account that is not deployed yet is deployed by the
operation, and has given the permission while it was set up.

The operation is priced in three stages: what the estimator knows before, what the bundler
estimates, and what the estimator knows afterwards. The gas for the validation that a stage
names covers one signature of each owner that has to sign, so the overhead of all of them
is added to it.
-/

set_option autoImplicit false

namespace SafeOps

/-- What a caller may choose for one operation. -/
structure OperationOptions where
  /-- The first second in which the operation is valid. -/
  validAfter : Option (BitVec 64) := none
  /-- The last second in which the operation is valid. -/
  validUntil : Option (BitVec 64) := none
  /-- A nonce in place of the next one in the default lane. -/
  nonce : Option Word := none
  /-- A token to pay with in place of the usual one. -/
  token : Option Address := none
  deriving DecidableEq, Repr

namespace Account

/-- Adds the overhead of the signatures to the gas for the validation, if a stage names
it. Products and sums are cut off at the largest quantity. -/
def withOverhead (overhead threshold : BitVec 64) (e : Estimation) : Estimation :=
  { e with verificationGas := e.verificationGas.map fun gas =>
      saturate (gas.toNat + (saturate (threshold.toNat * overhead.toNat)).toNat) }

/-- Puts one stage of pricing into an operation. -/
def mergeStage (a : Account) (threshold : BitVec 64) (op : SafeOperation) (e : Estimation) :
    Except AccountError SafeOperation :=
  let (answer, op) := op.addEstimation (withOverhead a.overhead threshold e)
  (answer.map fun _ => op).mapError .operation

/-- A quantity that may be missing, as messages show it. -/
def optionText : Option Word → String
  | some x => "Some(" ++ Quantity.decimal x ++ ")"
  | none => "None"

/-- The operation as estimators and bundlers see it: with a signature of the right size. -/
def withDummy (a : Account) (op : SafeOperation) : UserOperation :=
  op.toSignedWith (SignatureSet.empty.add (a.signer.dummySignature a.contracts.sharedSigner))

/-- What an estimator knows of an operation. -/
def pricingContext (a : Account) (payment : Option Payment) (op : SafeOperation) :
    PricingContext where
  operation := a.withDummy op
  entryPoint := a.entryPoint
  chainId := a.chainId
  payment := payment

/-- Prices an operation. -/
def price (a : Account) (op : SafeOperation) (threshold : BitVec 64) (payment : Option Payment) :
    Attempt AccountError SafeOperation := do
  let before ← Attempt.mapError .pricing (a.estimator.before (a.pricingContext payment op))
  let op ← Attempt.ofExcept (a.mergeStage threshold op before)
  -- The bundler simulates the operation with the prices found so far.
  let estimated ← Attempt.mapError (AccountError.pricing ∘ PricingError.rpc)
    (Rpc.Bundler.estimate a.bundler (a.withDummy op) a.entryPoint)
  Attempt.tell .debug ("pack.estimate.bundler call_gas_limit=" ++ optionText estimated.callGas
    ++ " verification_gas_limit=" ++ optionText estimated.verificationGas
    ++ " pre_verification_gas=" ++ optionText estimated.preVerificationGas)
  let op ← Attempt.ofExcept (a.mergeStage threshold op estimated)
  let after ← Attempt.mapError .pricing (a.estimator.after (a.pricingContext payment op))
  Attempt.ofExcept (a.mergeStage threshold op after)

/-- How one operation is paid for. -/
def paymentFor (a : Account) (o : OperationOptions) : Option Payment :=
  a.payment.map fun payment =>
    match o.token with
    | some token => payment.withToken token
    | none => payment

/-- Refuses another token than the one that the deployment lets the paymaster take. -/
def checkToken (a : Account) (deployment : Option Deployment) (o : OperationOptions) :
    Except AccountError Unit :=
  match deployment, a.payment.bind Payment.approval, o.token with
  | some _, some approval, some token =>
    if token = approval.token then .ok () else .error (.options (.token token approval.token))
  | _, _, _ => .ok ()

/-- The calls of an operation, with the permission for a paymaster in front unless the
deployment gives it. -/
def allCalls (deployment : Option Deployment) (payment : Option Payment) (calls : List Call) :
    List Call :=
  match deployment, payment.bind Payment.approval with
  | none, some approval => approval.toCall :: calls
  | _, _ => calls

/-- The data of an operation's call. -/
def callData (a : Account) (calls : List Call) : Except AccountError Bytes :=
  match Call.Batch.encode a.contracts.batchers calls with
  | .ok data => .ok (data ++ a.mark.getD [])
  | .error e => .error (.calls e)

/-- What the signatures of an account's operations are bound to. -/
def signingContext (a : Account) (o : OperationOptions) : SigningContext where
  chainId := a.chainId
  module := a.contracts.module
  entryPoint := a.entryPoint
  validAfter := o.validAfter.getD 0
  validUntil := o.validUntil.getD 0

/-- Prepares an operation. -/
def create (a : Account) (calls : List Call) (o : OperationOptions) :
    Attempt AccountError SafeOperation := Attempt.within logModule do
  if calls.isEmpty then throw (.calls .noCalls)
  let payment := a.paymentFor o
  let deployed ← readNode a.node (.isDeployed a.address)
  -- An account that was deployed in the meantime must not be deployed again.
  let deployment := if deployed then none else a.deployment
  Attempt.ofExcept (a.checkToken deployment o)
  let calls := allCalls deployment payment calls
  let nonce ←
    match o.nonce with
    | some nonce => pure nonce
    | none => readNode a.node (.nonce a.entryPoint a.address 0)
  let data ← Attempt.ofExcept (a.callData calls)
  let draft : Draft := {
    sender := a.address
    nonce
    callData := data
    deployment := deployment.map fun d => (d.factory, d.factoryData) }
  let op ← Attempt.ofExcept
    ((SafeOperation.ofDraft draft (a.signingContext o)).mapError .operation)
  -- The chain knows no threshold of an account that is not there yet.
  let threshold ←
    match deployment with
    | some d => pure d.threshold
    | none => readNode a.node (.threshold a.address)
  Attempt.tell .debug ("pack.create_transaction calls=" ++ toString calls.length ++ " nonce="
    ++ Quantity.decimal nonce ++ " deploys=" ++ toString deployment.isSome ++ " threshold="
    ++ Quantity.decimal threshold)
  a.price op threshold payment

end Account

end SafeOps
