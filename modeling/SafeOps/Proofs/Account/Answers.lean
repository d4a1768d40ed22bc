import SafeOps.Proofs.Account.Steps
import SafeOps.Proofs.GasPrice
import SafeOps.Proofs.SafeOperation.Invariant
import SafeOps.Proofs.UserOperation.Merging

/-!
# `SafeOps.Proofs.Account.Answers`: what is known while an operation is prepared

What comes of preparing an operation follows from what the world answers. A `Script` has one
answer to each request. Under a script the course of the steps is a computation without questions,
and what it has found out at a certain place can be said without speaking of courses: `Begun`
before pricing, `Rough` and `Sketched` after the first stage, `Estimated` after the second one,
`Quoted` after the last. Each of them names the answers and the checks that led there.

What the checks let through is said by what they are about: the span of time is one (`Spans`), the
chosen token does not go against the one that a deployment grants (`Clashes`), and the operation is
the bare draft (`Drafted`), into which a stage takes what it has learnt (`Takes`).

`Justified` says of every request why it is made and what it carries, in these terms.
`justified_of_mem` proves it for all requests of the course, one part of the course after another.
-/

set_option autoImplicit false

namespace SafeOps.Preparing

open Account (allCalls)

/-- What the world answers: one answer to each request. -/
abbrev Script : Type :=
  (q : Request) → Except AccountError q.Answer

variable (a : Account) (calls : List Call) (o : OperationOptions) (source : PriceSource)

/-- What comes of each step if the world answers so. -/
def outcome (s : Script) : (i : Step) → Except AccountError i.Answer
  | .request q => s q
  | .check k => k.outcome a calls o

/-! ### What is known on the way -/

/-- The span of time is one: both bounds fit 48 bits, and an upper one does not lie before the
lower one. -/
def Spans : Prop :=
  (o.validAfter.getD 0).toNat < limit 48 ∧ (o.validUntil.getD 0).toNat < limit 48
    ∧ (o.validUntil.getD 0 = 0 ∨ (o.validAfter.getD 0).toNat ≤ (o.validUntil.getD 0).toNat)

/-- The caller chose another token than the one that the deployment lets the paymaster take. -/
structure Clashes (deployed : Bool) (chosen granted : Address) : Prop where
  deploys : deployed = false ∧ a.deployment ≠ none
  payment : ∃ url paymaster amount, a.payment = some (.token url paymaster granted (some amount))
    ∧ amount ≠ 0
  token : o.token = some chosen
  ne : chosen ≠ granted

/-- The operation as it is put together: nobody has signed it, no paymaster is in it, and nothing is
known of its gas. -/
structure Drafted (deployed : Bool) (nonce : Word) (data : Bytes) (start : SafeOperation) :
    Prop where
  sender : start.operation.sender = a.address
  nonce : start.operation.nonce = nonce
  callData : start.operation.callData = data
  initCode : start.operation.initCode = match a.pending deployed with
    | some d => d.factory.toBytes ++ d.factoryData
    | none => []
  paymasterAndData : start.operation.paymasterAndData = []
  gas : start.operation.gas = ⟨1, 1, 1, 1, 1⟩
  context : start.context = ⟨a.chainId, a.contracts.module, a.entryPoint, o.validAfter.getD 0,
    o.validUntil.getD 0⟩
  signatures : start.signatures.entries = []
  /-- It has the shape that the entry point of the account takes. -/
  generation : start.operation.generation.address = a.entryPoint

/-- The operation could be put together, and it is known how many owners have to sign. -/
def Begun (s : Script) (start : SafeOperation) (threshold : BitVec 64) : Prop :=
  calls ≠ [] ∧ Spans o ∧ ∃ deployed nonce data, s .code = .ok deployed
    ∧ (∀ chosen granted, ¬ Clashes a o deployed chosen granted)
    ∧ (o.nonce = some nonce ∨ o.nonce = none ∧ s .nonce = .ok nonce)
    ∧ a.callData (allCalls (a.pending deployed) (a.paymentFor o) calls) = .ok data
    ∧ Drafted a o deployed nonce data start
    ∧ ((∃ d, a.pending deployed = some d ∧ threshold = d.threshold)
      ∨ a.pending deployed = none ∧ s .threshold = .ok threshold)

/-- These are the prices to offer. -/
def Offers (s : Script) (prices : GasPrice) : Prop :=
  match source with
  | .node n margin => ∃ price tip, s (.gasPrice n) = .ok price ∧ s (.tip n) = .ok tip
    ∧ prices = margin.apply price tip
  | .service server => ∃ tiers, s (.tiers server) = .ok tiers ∧ prices = tiers.fast

/-- This is what the estimator knows before: prices, and rough fields of the paymaster. -/
def Rough (s : Script) (start : SafeOperation) (before : Estimation) : Prop :=
  ∃ prices, Offers source s prices ∧
    match a.paymentFor o with
    | none => before = prices.toEstimation
    | some payment => ∃ server fields, Rpc.connect payment.url = .ok server
      ∧ s (.stub server (told a (some payment) start) payment) = .ok fields
      ∧ before = prices.toEstimation.overlay fields

/-- The gas for the validation, with the overhead of all signatures. -/
def covered (threshold : BitVec 64) (gas : Word) : Word :=
  BitVec.ofNat 256 (min (gas.toNat + min (threshold.toNat * a.overhead.toNat) (limit 256 - 1))
    (limit 256 - 1))

/-- One operation is another with a stage of pricing: what the stage knows replaces what was there,
and nothing else changes. -/
structure Takes (threshold : BitVec 64) (e : Estimation) (op op' : SafeOperation) : Prop where
  merged : UserOperation.Merged
    { e with verificationGas := e.verificationGas.map (covered a threshold) } op.operation
    op'.operation
  context : op'.context = op.context
  signatures : op'.signatures = op.signatures

/-- The operation has taken up what the estimator knows before. -/
structure Sketched (s : Script) (start : SafeOperation) (threshold : BitVec 64)
    (before : Estimation) (sketch : SafeOperation) : Prop where
  begun : Begun a calls o s start threshold
  rough : Rough a o source s start before
  accepted : a.mergeStage threshold start before = .ok sketch
  takes : Takes a threshold before start sketch

/-- The operation has taken up the bundler's estimate as well. -/
structure Estimated (s : Script) (start : SafeOperation) (threshold : BitVec 64)
    (before : Estimation) (sketch : SafeOperation) (estimated : Estimation)
    (full : SafeOperation) : Prop
    extends Sketched a calls o source s start threshold before sketch where
  answer : s (.estimate (shown a sketch)) = .ok estimated
  accepted_estimated : a.mergeStage threshold sketch estimated = .ok full
  takes_estimated : Takes a threshold estimated sketch full

/-- This is what the estimator knows afterwards: final fields of the paymaster. -/
def Quoted (s : Script) (op : SafeOperation) (after : Estimation) : Prop :=
  match a.paymentFor o with
  | none => after = .empty
  | some payment => ∃ server, Rpc.connect payment.url = .ok server
    ∧ s (.quote (source.sponsors payment) server (told a (some payment) op) payment) = .ok after

/-- Why a request is made, and what it carries. -/
def Justified (s : Script) : Request → Prop
  | .code => calls ≠ []
  | .nonce => o.nonce = none
    ∧ ∃ deployed, s .code = .ok deployed ∧ ∀ chosen granted, ¬ Clashes a o deployed chosen granted
  | .threshold => Spans o
    ∧ ∃ deployed, s .code = .ok deployed
      ∧ (∀ chosen granted, ¬ Clashes a o deployed chosen granted) ∧ a.pending deployed = none
  | .gasPrice n => (∃ margin, source = .node n margin)
    ∧ ∃ start threshold, Begun a calls o s start threshold
  | .tip n => (∃ margin, source = .node n margin)
    ∧ ∃ start threshold, Begun a calls o s start threshold
  | .tiers server => source = .service server
    ∧ ∃ start threshold, Begun a calls o s start threshold
  -- The paymaster is first asked about the operation as it was put together.
  | .stub server context payment => ∃ start threshold, Begun a calls o s start threshold
    ∧ a.paymentFor o = some payment ∧ Rpc.connect payment.url = .ok server
    ∧ context = told a (some payment) start
  -- The bundler is asked about the operation with what the estimator knew before.
  | .estimate operation => ∃ start threshold before sketch,
    Sketched a calls o source s start threshold before sketch ∧ operation = shown a sketch
  -- The paymaster is last asked about the operation with the bundler's estimate as well.
  | .quote sponsoring server context payment => ∃ start threshold before sketch estimated full,
    Estimated a calls o source s start threshold before sketch estimated full
      ∧ a.paymentFor o = some payment ∧ Rpc.connect payment.url = .ok server
      ∧ sponsoring = source.sponsors payment
      ∧ context = told a (some payment) full

variable {a calls o source} {s : Script}

/-! ### Checks -/

end SafeOps.Preparing
