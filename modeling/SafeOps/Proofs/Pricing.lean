import SafeOps.Pricing
import SafeOps.Proofs.Node

/-!
# `SafeOps.Proofs.Pricing`: what a paymaster is told

A paymaster's service is told for which payment it is asked: under which policy, or for which
token. `Query.Names` says of a question that it tells a paymaster nothing else than what belongs
to a payment. An estimator is `Faithful` if all its questions are of this kind, for the payment
it was given, whatever the answers are. All three estimators are, as long as the node they read
prices from asks no paymaster on its own, which neither kind of node does (`quiet_external`,
`quiet_remote`).
-/

set_option autoImplicit false

namespace SafeOps

/-- The methods by which a paymaster is asked for the fields of an operation. -/
def paymasterMethods : List String :=
  ["pm_getPaymasterStubData", "pm_getPaymasterData", "pm_sponsorUserOperation"]

/-- If the question goes to a paymaster, the last parameter is what this payment has it told. -/
def Query.Names (payment : Option Payment) : Query → Prop
  | .post _ request => request.method ∈ paymasterMethods →
    ∃ p params, payment = some p ∧ request.params = .arr (params ++ [p.context.toJson])
  | _ => True

/-- If the question goes to a paymaster, the last parameter names this token and nothing else. -/
def Query.NamesToken (token : Address) : Query → Prop
  | .post _ request => request.method ∈ paymasterMethods →
    ∃ params, request.params = .arr (params ++ [.obj [("token", Json.ofAddress token)]])
  | _ => True

theorem Query.Names.namesToken {payment : Payment} {token : Address} {question : Query}
    (h : question.Names (some payment)) (hcontext : payment.context = { token := some token }) :
    question.NamesToken token := by
  cases question with
  | post service request =>
    intro hmethod
    obtain ⟨p, params, hp, hparams⟩ := h hmethod
    obtain rfl := Option.some.inj hp
    rw [hcontext] at hparams
    exact ⟨params, hparams⟩
  | _ => trivial

theorem Query.names_tell (payment : Option Payment) (level : Log.Level) (context : Option String)
    (text : String) : (Query.tell level context text).Names payment :=
  trivial

theorem Query.names_of_not_mem {payment : Option Payment} {service : Endpoint}
    {request : Rpc.Request} (h : request.method ∉ paymasterMethods) :
    (Query.post service request).Names payment :=
  fun hmethod => absurd hmethod h

theorem Query.Names.of_none {payment : Option Payment} {question : Query}
    (h : question.Names none) : question.Names payment := by
  cases question with
  | post service request =>
    intro hmethod
    obtain ⟨p, params, hnone, -⟩ := h hmethod
    cases hnone
  | node question => trivial
  | typedSignature method data => trivial
  | assertion challenge => trivial
  | tell level context text => trivial
  | pause => trivial

namespace Program

theorem Asks.mono {α : Type} {P Q : Query → Prop} (hPQ : ∀ question, P question → Q question)
    {p : Program α} (h : p.Asks P) : p.Asks Q := by
  induction p with
  | done value => trivial
  | ask question next ih => exact ⟨hPQ question h.1, fun answer => ih answer (h.2 answer)⟩

end Program

/-! ### Nodes -/

/-- No question of the node goes to a paymaster. -/
def Node.Quiet (node : Node) : Prop :=
  ∀ question, (node.read question).run.Asks (Query.Names none)

namespace Node

theorem quiet_external : external.Quiet := by
  intro question
  exact Program.asks_query trivial

theorem quiet_remote (service : Endpoint) : (remote service).Quiet := by
  have hpaymaster : ∀ name ∈ methods, name ∉ paymasterMethods := by decide
  intro question
  exact asks_remote (fun name _ hname => Query.names_of_not_mem (hpaymaster name hname))
    (Query.names_tell none) question

end Node

/-! ### Estimators -/

/-- A paymaster is told what belongs to the payment the estimator was given. -/
structure Estimator.Faithful (e : Estimator) : Prop where
  before : ∀ c, (e.before c).run.Asks (Query.Names c.payment)
  after : ∀ c, (e.after c).run.Asks (Query.Names c.payment)

namespace Estimator

theorem faithful_none : Estimator.none.Faithful where
  before _ := trivial
  after _ := trivial

section Paymaster

variable {c : PricingContext} {payment : Payment} (server : Endpoint)

theorem asks_service {P : Query → Prop} : (service payment).run.Asks P :=
  Attempt.asks_ofExcept

theorem asks_stub (hpayment : c.payment = some payment) :
    (stub server c payment).run.Asks (Query.Names c.payment) := by
  refine Attempt.asks_mapError (Rpc.asks_ask ?_ (Query.names_tell c.payment))
  intro _
  exact ⟨payment, [_, _, _], hpayment, rfl⟩

theorem asks_final (hpayment : c.payment = some payment) :
    (final server c payment).run.Asks (Query.Names c.payment) := by
  refine Attempt.asks_bind (Attempt.asks_tell (Query.names_tell c.payment)) fun _ => ?_
  refine Attempt.asks_mapError (Rpc.asks_ask ?_ (Query.names_tell c.payment))
  intro _
  exact ⟨payment, [_, _, _], hpayment, rfl⟩

/-- Rough fields take one request. -/
theorem gives_stub_iff {t : List Exchange} {e : Estimation} :
    (stub server c payment).Gives t e ↔
      ∃ reply, t = [⟨.post server ⟨"pm_getPaymasterStubData", .arr [c.operation.toJson,
          Json.ofAddress c.entryPoint, Json.ofQuantity c.chainId, payment.context.toJson]⟩, reply⟩]
        ∧ Rpc.interpret "pm_getPaymasterStubData" Estimation.ofJson? reply = .ok e :=
  Attempt.gives_mapError_iff.trans Rpc.gives_ask_iff

/-- Final fields take one request. -/
theorem gives_final_iff {t : List Exchange} {e : Estimation} :
    (final server c payment).Gives t e ↔
      ∃ reply, t = [⟨.post server ⟨"pm_getPaymasterData", .arr [c.operation.toJson,
          Json.ofAddress c.entryPoint, Json.ofQuantity c.chainId, payment.context.toJson]⟩, reply⟩]
        ∧ Rpc.interpret "pm_getPaymasterData" Estimation.ofJson? reply = .ok e :=
  Attempt.gives_tell_bind_iff.trans (Attempt.gives_mapError_iff.trans Rpc.gives_ask_iff)

theorem asks_sponsor (hpayment : c.payment = some payment) :
    (Attempt.mapError PricingError.rpc (Rpc.PaymasterService.sponsorFields server c.operation
      c.entryPoint payment.context)).run.Asks (Query.Names c.payment) := by
  refine Attempt.asks_mapError (Rpc.asks_ask ?_ (Query.names_tell c.payment))
  intro _
  exact ⟨payment, [_, _], hpayment, rfl⟩

end Paymaster

theorem faithful_ofNode {node : Node} (hnode : node.Quiet) (margin : PriceMargin) :
    (ofNode node margin).Faithful where
  before := by
    rintro ⟨operation, entryPoint, chainId, payment⟩
    have hread : ∀ question, (Attempt.mapError PricingError.node (node.read question)).run.Asks
        (Query.Names payment) := by
      intro question
      exact Attempt.asks_mapError ((hnode question).mono fun q => Query.Names.of_none)
    refine Attempt.asks_bind (hread .gasPrice) fun price => ?_
    refine Attempt.asks_bind (hread .maxPriorityFee) fun tip => ?_
    refine Attempt.asks_bind (Attempt.asks_tell (Query.names_tell payment)) fun _ => ?_
    cases payment with
    | none => exact trivial
    | some payment =>
      refine Attempt.asks_bind asks_service fun server => ?_
      refine Attempt.asks_bind (Attempt.asks_tell (Query.names_tell (some payment))) fun _ => ?_
      exact Attempt.asks_bind (asks_stub server rfl) fun _ => trivial
  after := by
    rintro ⟨operation, entryPoint, chainId, payment⟩
    cases payment with
    | none => exact trivial
    | some payment => exact Attempt.asks_bind asks_service fun server => asks_final server rfl

theorem faithful_ofService (priceServer : Endpoint) : (ofService priceServer).Faithful where
  before := by
    rintro ⟨operation, entryPoint, chainId, payment⟩
    have hprices : (Attempt.mapError PricingError.rpc
        (Rpc.PaymasterService.prices priceServer)).run.Asks (Query.Names payment) :=
      Attempt.asks_mapError
        (Rpc.asks_ask (Query.names_of_not_mem (by decide)) (Query.names_tell payment))
    refine Attempt.asks_bind hprices fun tiers => ?_
    refine Attempt.asks_bind (Attempt.asks_tell (Query.names_tell payment)) fun _ => ?_
    cases payment with
    | none => exact trivial
    | some payment =>
      refine Attempt.asks_bind asks_service fun server => ?_
      exact Attempt.asks_bind (asks_stub server rfl) fun _ => trivial
  after := by
    rintro ⟨operation, entryPoint, chainId, payment⟩
    cases payment with
    | none => exact trivial
    | some payment =>
      refine Attempt.asks_bind asks_service fun server => ?_
      by_cases hsponsored : payment.isSponsored = true
      · rw [if_pos hsponsored]
        refine Attempt.asks_bind (Attempt.asks_tell (Query.names_tell (some payment))) fun _ => ?_
        exact asks_sponsor server rfl
      · rw [if_neg hsponsored]
        exact asks_final server rfl

end Estimator

end SafeOps
