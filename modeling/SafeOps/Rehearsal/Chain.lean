import SafeOps.Node.Codec

/-!
# `SafeOps.Rehearsal.Chain`: a chain in memory

A `Chain` answers the questions of `NodeQuery` from what it holds: one account, whose
address does not matter, and the prices of gas. It can be told to refuse a kind of
question. Asking changes nothing.
-/

set_option autoImplicit false

namespace SafeOps

namespace Rehearsal

/-- What a chain holds. -/
structure Chain where
  chainId : BitVec 64 := 11155111
  /-- Whether the account is deployed. -/
  deployed : Bool := false
  owners : List Address := []
  threshold : BitVec 64 := 1
  version : String := "1.4.1"
  moduleEnabled : Bool := true
  fallbackHandler : Address := .zero
  /-- The next place in every lane of nonces. -/
  nonce : Word := 0
  creationCode : Bytes := []
  gasPrice : Word := 2000000000
  maxPriorityFee : Word := 1000000000
  /-- The kinds of questions that are refused, with the reasons. -/
  refusals : List (String × String) := []
  deriving DecidableEq, Repr

namespace Chain

/-- The next nonce of a lane. -/
def nonceIn (c : Chain) (key : BitVec 192) : Word :=
  (key.setWidth 256 <<< 64) ||| c.nonce

/-- What a chain knows. -/
def known (c : Chain) : (question : NodeQuery) → question.Answer
  | .chainId => c.chainId
  | .isDeployed _ => c.deployed
  | .owners _ => c.owners
  | .threshold _ => c.threshold
  | .version _ => c.version
  | .isModuleEnabled _ _ => c.moduleEnabled
  | .fallbackHandler _ => c.fallbackHandler
  | .nonce _ _ key => c.nonceIn key
  | .creationCode _ => c.creationCode
  | .gasPrice => c.gasPrice
  | .maxPriorityFee => c.maxPriorityFee

/-- Answers a question. -/
def answer (c : Chain) (question : NodeQuery) : Except NodeError question.Answer :=
  match c.refusals.lookup question.kind with
  | some reason => .error (.unexpected (.reported reason))
  | none => .ok (c.known question)

/-- A chain that refuses nothing answers what it knows. -/
theorem answer_of_refusals_nil (c : Chain) (h : c.refusals = []) (question : NodeQuery) :
    c.answer question = .ok (c.known question) := by
  simp [answer, h]

end Chain

end Rehearsal

end SafeOps
