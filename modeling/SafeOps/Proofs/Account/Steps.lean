import SafeOps.Proofs.Account.Preparation
import SafeOps.Proofs.Node
import SafeOps.Proofs.Program.Course

/-!
# `SafeOps.Proofs.Account.Steps`: the steps in which an operation is prepared

Preparing an operation is a chain of requests and checks. A request goes to the node, to the
bundler or to the service of a paymaster; a check asks nobody. The course of these steps,
`Preparing.course`, says what each request carries and what is done with its answer, and leaves
out everything else. Nobody is shown an operation without a signature, and `shown` says which one
stands in for the signer's own. `follows_create` says that the runs of `Account.create` are those
of the course, for an account whose estimator takes its prices from a node or from a service.

A failure of the course is always the failure of one of its steps (`sure_course`), and a check is
a step whose outcome is known beforehand. Which requests are made is therefore a matter of the
answers alone.
-/

set_option autoImplicit false

namespace SafeOps

/-- Where an estimator takes its prices from. -/
inductive PriceSource where
  | node (node : Node) (margin : PriceMargin)
  | service (server : Endpoint)

namespace PriceSource

def estimator : PriceSource → Estimator
  | .node n margin => .ofNode n margin
  | .service server => .ofService server

/-- Whether the paymaster is asked to sponsor an operation in one step. -/
def sponsors : PriceSource → Payment → Bool
  | .node _ _, _ => false
  | .service _, payment => payment.isSponsored

/-- Each question for a price is one exchange. -/
def Direct : PriceSource → Prop
  | .node n _ => n.Direct
  | .service _ => True

end PriceSource

namespace Preparing

open Account (readNode allCalls)

/-- Something that is asked while an operation is prepared. -/
inductive Request where
  /-- Whether there is code at the address of the account. -/
  | code
  /-- The next nonce of the default lane. -/
  | nonce
  | threshold
  | gasPrice (node : Node)
  | tip (node : Node)
  | tiers (server : Endpoint)
  /-- Rough fields of the paymaster. -/
  | stub (server : Endpoint) (context : PricingContext) (payment : Payment)
  /-- The bundler's estimate. -/
  | estimate (operation : UserOperation)
  /-- Final fields of the paymaster. -/
  | quote (sponsoring : Bool) (server : Endpoint) (context : PricingContext) (payment : Payment)

abbrev Request.Answer : Request → Type
  | .code => Bool
  | .nonce => Word
  | .threshold => BitVec 64
  | .gasPrice _ => Word
  | .tip _ => Word
  | .tiers _ => PriceTiers
  | .stub _ _ _ => Estimation
  | .estimate _ => Estimation
  | .quote _ _ _ _ => Estimation

/-- Something that has to be in order. -/
inductive Check where
  /-- There has to be a call. -/
  | calls
  /-- The token goes with the deployment. -/
  | token (deployment : Option Deployment)
  /-- The calls can be encoded. -/
  | data (calls : List Call)
  /-- The draft fits the entry point, and the span of time is one. -/
  | draft (draft : Draft)
  /-- The URL of the paymaster's service is accepted. -/
  | service (payment : Payment)
  /-- The operation takes a stage of pricing up. -/
  | merge (threshold : BitVec 64) (op : SafeOperation) (stage : Estimation)

abbrev Check.Answer : Check → Type
  | .calls => Unit
  | .token _ => Unit
  | .data _ => Bytes
  | .draft _ => SafeOperation
  | .service _ => Endpoint
  | .merge _ _ _ => SafeOperation

inductive Step where
  | request (q : Request)
  | check (k : Check)

abbrev Step.Answer : Step → Type
  | .request q => q.Answer
  | .check k => k.Answer

/-- A course of requests and checks. -/
abbrev Plan : Type → Type :=
  Course AccountError Step.Answer

def ask (q : Request) : Plan q.Answer :=
  Course.step (A := Step.Answer) (.request q)

def pass (k : Check) : Plan k.Answer :=
  Course.step (A := Step.Answer) (.check k)

variable (a : Account) (calls : List Call) (o : OperationOptions) (source : PriceSource)

/-! ### What others are shown of an operation -/

/-- The signature that is put in place of the signer's own while an operation is priced. It has the
size of a real one: 65 bytes for a key, and for a passkey the answer of an authenticator that
signed on a site, in the name of the shared signer. -/
def standIn : OwnerSignature :=
  match a.signer with
  | .key address => ⟨address, List.replicate 64 0xFF ++ [0x1F], false⟩
  | .passkey _ =>
    let number : Word := Bytes.toBits 256 (List.replicate 32 0xEC)
    ⟨a.contracts.sharedSigner,
      Abi.encode [.bytes, .bytes, .tuple [.uint 256, .uint 256]]
        (List.replicate 32 0xFE ++ [0x05] ++ List.replicate 4 0xFE,
          Bytes.ofText "\"origin\":\"https://safe.global\",\"crossOrigin\":false",
          (number, number, ()), ()), true⟩

/-- The operation as others are shown it: in its signature field stand the span of time and that
one signature, and all else is as it is. -/
def shown (op : SafeOperation) : UserOperation :=
  { op.operation with
    signature := Bytes.ofBits 6 op.context.validAfter ++ Bytes.ofBits 6 op.context.validUntil
      ++ SignatureSet.encode ⟨[standIn a], List.pairwise_singleton _ _⟩ }

/-- What a paymaster is told of an operation. -/
def told (payment : Option Payment) (op : SafeOperation) : PricingContext where
  operation := shown a op
  entryPoint := a.entryPoint
  chainId := a.chainId
  payment := payment

/-- The nonce, which is asked for unless the caller has chosen one. -/
def numbering : Plan Word :=
  match o.nonce with
  | some nonce => pure nonce
  | none => ask .nonce

/-- How many owners have to sign, which a deployment says itself. -/
def counting (deployment : Option Deployment) : Plan (BitVec 64) :=
  match deployment with
  | some d => pure d.threshold
  | none => ask .threshold

/-- The operation as it is put together, once it is known whether it deploys the account, and how
many owners have to sign. -/
def composing (deployment : Option Deployment) : Plan (SafeOperation × BitVec 64) := do
  pass (.token deployment)
  let nonce ← numbering o
  let data ← pass (.data (allCalls deployment (a.paymentFor o) calls))
  let start ← pass (.draft (a.draftFor deployment nonce data))
  let threshold ← counting deployment
  return (start, threshold)

/-- What comes before pricing. -/
def beginning : Plan (SafeOperation × BitVec 64) := do
  pass .calls
  let deployed ← ask .code
  composing a calls o (a.pending deployed)

/-- The prices to offer. -/
def offer : PriceSource → Plan GasPrice
  | .node n margin => do
    let price ← ask (.gasPrice n)
    let tip ← ask (.tip n)
    return margin.apply price tip
  | .service server => do
    let tiers ← ask (.tiers server)
    return tiers.fast

/-- The first stage: prices, and rough fields of the paymaster. -/
def roughing (payment : Option Payment) (op : SafeOperation) : Plan Estimation := do
  let offer ← offer source
  match payment with
  | none => return offer.toEstimation
  | some payment => do
    let server ← pass (.service payment)
    let fields ← ask (.stub server (told a (some payment) op) payment)
    return offer.toEstimation.overlay fields

/-- The last stage: final fields of the paymaster. -/
def quoting (payment : Option Payment) (op : SafeOperation) : Plan Estimation :=
  match payment with
  | none => return .empty
  | some payment => do
    let server ← pass (.service payment)
    ask (.quote (source.sponsors payment) server (told a (some payment) op) payment)

/-- The operation with the first stage and the bundler's estimate. -/
def estimating (threshold : BitVec 64) (start : SafeOperation) : Plan SafeOperation := do
  let before ← roughing a source (a.paymentFor o) start
  let op ← pass (.merge threshold start before)
  let estimated ← ask (.estimate (shown a op))
  pass (.merge threshold op estimated)

def pricing (threshold : BitVec 64) (start : SafeOperation) : Plan SafeOperation := do
  let op ← estimating a o source threshold start
  let after ← quoting a source (a.paymentFor o) op
  pass (.merge threshold op after)

/-- All steps in which an operation is prepared. -/
def course : Plan SafeOperation := do
  let (start, threshold) ← beginning a calls o
  pricing a o source threshold start

/-! ### What the steps amount to -/

def Request.perform : (q : Request) → Attempt AccountError q.Answer
  | .code => readNode a.node (.isDeployed a.address)
  | .nonce => readNode a.node (.nonce a.entryPoint a.address 0)
  | .threshold => readNode a.node (.threshold a.address)
  | .gasPrice n => Attempt.mapError .pricing (Attempt.mapError .node (n.read .gasPrice))
  | .tip n => Attempt.mapError .pricing (Attempt.mapError .node (n.read .maxPriorityFee))
  | .tiers server =>
    Attempt.mapError .pricing (Attempt.mapError .rpc (Rpc.PaymasterService.prices server))
  | .stub server c payment => Attempt.mapError .pricing (Estimator.stub server c payment)
  | .estimate operation =>
    Attempt.mapError (AccountError.pricing ∘ PricingError.rpc)
      (Rpc.Bundler.estimate a.bundler operation a.entryPoint)
  | .quote sponsoring server c payment =>
    Attempt.mapError .pricing (Attempt.mapError .rpc (
      if sponsoring then
        Rpc.PaymasterService.sponsorFields server c.operation c.entryPoint payment.context
      else
        Rpc.PaymasterService.finalFields server c.operation c.entryPoint c.chainId
          payment.context))

/-- What comes of a check. -/
def Check.outcome : (k : Check) → Except AccountError k.Answer
  | .calls => if calls.isEmpty then .error (.calls .noCalls) else .ok ()
  | .token deployment => a.checkToken deployment o
  | .data calls => a.callData calls
  | .draft d => (SafeOperation.ofDraft d (a.signingContext o)).mapError .operation
  | .service payment => ((Rpc.connect payment.url).mapError .rpc).mapError .pricing
  | .merge threshold op stage => a.mergeStage threshold op stage

def Step.perform : (i : Step) → Attempt AccountError i.Answer
  | .request q => q.perform a
  | .check k => Attempt.ofExcept (k.outcome a calls o)

variable {a calls o source}

/-- What is sent, if the request is not one to a node. -/
def Request.post (a : Account) : Request → Option (Endpoint × Rpc.Request)
  | .tiers server => some (server, ⟨"pimlico_getUserOperationGasPrice", .arr []⟩)
  | .stub server c payment =>
    some (server, ⟨"pm_getPaymasterStubData", .arr [c.operation.toJson,
      Json.ofAddress c.entryPoint, Json.ofQuantity c.chainId, payment.context.toJson]⟩)
  | .estimate operation =>
    some (a.bundler, ⟨"eth_estimateUserOperationGas", .arr [operation.toJson,
      Json.ofAddress a.entryPoint]⟩)
  | .quote true server c payment =>
    some (server, ⟨"pm_sponsorUserOperation", .arr [c.operation.toJson,
      Json.ofAddress c.entryPoint, payment.context.toJson]⟩)
  | .quote false server c payment =>
    some (server, ⟨"pm_getPaymasterData", .arr [c.operation.toJson,
      Json.ofAddress c.entryPoint, Json.ofQuantity c.chainId, payment.context.toJson]⟩)
  | _ => none

end Preparing

end SafeOps
