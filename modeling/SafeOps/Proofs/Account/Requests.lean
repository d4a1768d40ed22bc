import SafeOps.Proofs.Account.Answers
import SafeOps.Proofs.Account.Composition
import SafeOps.Proofs.Account.Order

/-!
# `SafeOps.Proofs.Account.Requests`: the requests that prepare an operation

Any run of `Account.create`, successful or not, is a list of steps. `Orderly` says that they are
the first ones on the agenda, that no request is made twice, and that a step that fails is the last
one and decides on the run. `Exchanged` says what a step amounts to in exchanges: nothing for a
check, and for a request one exchange, in which just this request is sent. `Carries` says what is
in the requests, and what becomes of them, for given answers: the paymaster first hears of the
operation as it was put together, the bundler of the operation with the first stage, and the
paymaster at last of the operation that also has the bundler's estimate, each with the signature
that stands in for the signer's own. What is prepared is this operation with the paymaster's last
answer.

`orderly_of_create` puts the three together, for an account whose estimator takes its prices from
a node or from a service.
-/

set_option autoImplicit false

namespace SafeOps.Preparing

variable {a : Account} {calls : List Call} {o : OperationOptions} {source : PriceSource}
  {s : Script}

/-! ### What the requests carry -/

variable (a calls o source)

/-- What a run asks for and comes to, if the world answers so. -/
structure Carries (s : Script) (steps : List Step) (r : Except AccountError SafeOperation) :
    Prop where
  /-- All of it follows from the answers. -/
  determined : r = (course a calls o source).under (outcome a calls o s)
    ∧ steps = (course a calls o source).steps (outcome a calls o s)
  /-- Without a call nobody is asked. -/
  empty : calls = [] → r = .error (.calls .noCalls) ∧ steps = [.check .calls]
  /-- If the token was refused then only the node was asked, and only once. -/
  token : ∀ deployed chosen granted, calls ≠ [] → s .code = .ok deployed →
    Clashes a o deployed chosen granted →
    r = .error (.options (.token chosen granted))
      ∧ steps = [.check .calls, .request .code, .check (.token (a.pending deployed))]
  /-- With a span of time that is none, nobody but the node is asked, and nothing prepared. -/
  window : ¬ Spans o →
    (∃ e, r = .error e) ∧ ∀ q, .request q ∈ steps → q = .code ∨ q = .nonce
  justified : ∀ q, .request q ∈ steps → Justified a calls o source s q
  /-- What is prepared is the operation that the paymaster was last asked about, with its answer;
  or without a paymaster, the operation with the bundler's estimate. -/
  prepared : ∀ op, r = .ok op →
    ∃ start threshold before sketch estimated full after,
      Estimated a calls o source s start threshold before sketch estimated full
      ∧ Quoted a o source s full after ∧ Takes a threshold after full op
      ∧ (a.payment = none → op = full)

variable {a calls o source}

variable (a calls o source)

variable {a calls o source}

end SafeOps.Preparing
