import SafeOps.Proofs.Account.Opening
import SafeOps.Proofs.Account.Pricing
import SafeOps.Proofs.Pricing
import SafeOps.Proofs.SafeOperation.Invariant

/-!
# `SafeOps.Proofs.Account.Composition`: what an operation is put together from

An operation is put together when it is prepared, but one part of it can be older: an account
that is not deployed yet carries its deployment from the time it was set up. A paymaster that
takes a token needs a permission (`AccountConfig.grant`), and there are two places for it. The
deployment lets the account give it while it is set up (`Deployment.SetsUp`), and an operation
without a deployment gives it with the first of its calls.

`composed_of_create` says that it is given in exactly one of these places, for the token
the paymaster is told of, whatever happened between the two times: `Composed` lists the clauses.
The permission is a call with target, value, data and mode (`AccountConfig.permission`), and where
it is not given there is no such call.
Between them a caller may choose another token. Then the deployment would not do any more, and
no operation is prepared; `approval_eq_grant` is the reason.
-/

set_option autoImplicit false

namespace SafeOps

/-! ### Permissions -/

/-- What a paymaster that takes a token has to be allowed, for the token that is paid with. -/
def AccountConfig.grant (c : AccountConfig) (o : OperationOptions) : Option Approval :=
  match c.payment with
  | some (.token _ paymaster token (some amount)) =>
    if amount = 0 then none else some ⟨o.token.getD token, paymaster, amount⟩
  | _ => none

/-- The call that gives a permission: the token is called, without a value, and told who may take
how much. -/
def Approval.giving (g : Approval) : Call where
  target := g.token
  value := 0
  data := Contract.approve.encode (g.spender, g.amount, ())
  mode := .call

/-- The calls that give the permission, one if a paymaster has to be allowed something. -/
def AccountConfig.permission (c : AccountConfig) (o : OperationOptions) : List Call :=
  (c.grant o).toList.map Approval.giving

/-- The token that a caller chooses is the only thing that changes. -/
theorem AccountConfig.grant_eq (c : AccountConfig) (o : OperationOptions) :
    c.grant o = (c.payment.bind Payment.approval).map fun g =>
      { g with token := o.token.getD g.token } := by
  rw [grant]
  cases c.payment with
  | none => rfl
  | some payment =>
    cases payment with
    | sponsored url policy => rfl
    | token url paymaster token amount =>
      cases amount with
      | none => rfl
      | some amount =>
        show (if amount = 0 then none else some _)
          = Option.map _ (if amount = 0 then none else some _)
        by_cases hzero : amount = 0
        · rw [if_pos hzero, if_pos hzero]
          rfl
        · rw [if_neg hzero, if_neg hzero]
          rfl

namespace Account

variable {c : AccountConfig} {o : OperationOptions} {a : Account}

theorem approval_paymentFor (hpayment : a.payment = c.payment) :
    (a.paymentFor o).bind Payment.approval = c.grant o := by
  rw [paymentFor, hpayment, AccountConfig.grant]
  cases c.payment with
  | none => rfl
  | some payment =>
    cases payment with
    | sponsored url policy => cases o.token <;> rfl
    | token url paymaster token amount => cases amount <;> cases o.token <;> rfl

/-- The estimator gets a payment that names the token of the permission, and nothing else. -/
theorem context_of_grant (hpayment : a.payment = c.payment) {g : Approval}
    (h : c.grant o = some g) :
    ∃ payment, a.paymentFor o = some payment ∧ payment.context = { token := some g.token } := by
  rw [paymentFor, hpayment]
  unfold AccountConfig.grant at h
  split at h
  · next url paymaster token amount hsome =>
    split at h
    · cases h
    · cases h
      rw [hsome]
      cases o.token with
      | none => exact ⟨_, rfl, rfl⟩
      | some chosen => exact ⟨_, rfl, rfl⟩
  · cases h

/-- A deployment that is still to come gives the permission for the token that is paid with. -/
theorem approval_eq_grant (hpayment : a.payment = c.payment) {d : Deployment}
    (h : a.checkToken (some d) o = .ok ()) :
    c.payment.bind Payment.approval = c.grant o := by
  unfold checkToken at h
  rw [hpayment] at h
  rw [AccountConfig.grant_eq]
  cases happroval : c.payment.bind Payment.approval with
  | none => rfl
  | some g =>
    cases htoken : o.token with
    | none => rfl
    | some chosen =>
      rw [happroval, htoken] at h
      -- The check lets another token pass only if it is the same.
      by_cases hsame : chosen = g.token
      · rw [hsame]
        rfl
      · cases (if_neg hsame).symm.trans h

end Account

/-! ### Deployments -/

/-- The account performs these calls while it is deployed: the only one by running its code, or
all of them through the batching contract. -/
def Deployment.SetsUp (contracts : Contracts) (d : Deployment) (setup : List Call) : Prop :=
  ∃ singleton owners threshold saltNonce target data,
    d.factoryData = Contract.createProxyWithNonce.encode
      (singleton, Contract.setup.encode
        (owners, threshold, target, data, contracts.module, .zero, 0, .zero, ()), saltNonce, ())
    ∧ ((∃ call, setup = [call] ∧ call.mode = .delegateCall ∧ target = call.target
        ∧ data = call.data)
      ∨ (2 ≤ setup.length ∧ target = contracts.multiSend ∧ data = Call.MultiSend.encode setup))

namespace Deployment

theorem setsUp_prepare (contracts : Contracts) (account : NewAccount) (extras : SetupExtras)
    (creationCode : Bytes) :
    (prepare contracts account extras creationCode).SetsUp contracts
      (setupCalls contracts extras) := by
  refine ⟨_, _, _, _, (setupTarget contracts (setupCalls contracts extras)).1,
    (setupTarget contracts (setupCalls contracts extras)).2, rfl, ?_⟩
  obtain ⟨approval, passkey⟩ := extras
  cases approval with
  | none =>
    cases passkey with
    | none => exact Or.inl ⟨_, rfl, rfl, rfl, rfl⟩
    | some configuration => exact Or.inr ⟨by simp [setupCalls], rfl, rfl⟩
  | some approval =>
    cases passkey with
    | none => exact Or.inr ⟨by simp [setupCalls], rfl, rfl⟩
    | some configuration => exact Or.inr ⟨by simp [setupCalls], rfl, rfl⟩

/-- The permission is the only call among what the account does while it is set up; all else is
code it runs on its own behalf. -/
theorem filter_setupCalls (contracts : Contracts) (extras : SetupExtras) :
    (setupCalls contracts extras).filter (·.mode = .call)
      = extras.approval.toList.map Approval.giving := by
  obtain ⟨approval, passkey⟩ := extras
  cases approval <;> cases passkey <;> rfl

end Deployment

namespace Account

variable {c : AccountConfig} {calls : List Call} {o : OperationOptions} {t₀ t : List Exchange}
  {a : Account} {op : SafeOperation}

/-- An account has a deployment if it was set up as a new one. -/
theorem Opening.deployment_eq_some (p : Opening c t a) {d : Deployment}
    (h : a.deployment = some d) :
    ∃ account code,
      d = Deployment.prepare a.contracts account (extrasFor c.signer c.payment) code
        ∧ d.account = a.address := by
  have hgives := p.gives_choice
  cases hchoice : c.choice with
  | existing address =>
    obtain ⟨-, -, hnone⟩ := (gives_resolveChoice_existing_iff hchoice).mp hgives
    rw [hnone] at h
    cases h
  | new account =>
    obtain ⟨d', hprepare, haddress, hsome⟩ := (gives_resolveChoice_new_iff hchoice).mp hgives
    rw [hsome] at h
    obtain rfl := Option.some.inj h
    obtain ⟨-, -, code, -, hd⟩ := gives_prepareNew_iff.mp hprepare
    exact ⟨_, code, hd, haddress.symm⟩

/-! ### Operations -/

/-- Pricing leaves the sender of an operation, its data and what deploys the sender alone. -/
theorem Preparation.content (p : Preparation a calls o t op) :
    op.operation.sender = a.address ∧ op.operation.callData = p.data
      ∧ op.operation.initCode = match a.pending p.deployed with
        | some d => d.factory.toBytes ++ d.factoryData
        | none => [] := by
  obtain ⟨generation, -, -, -, hstart⟩ := SafeOperation.ofDraft_eq_ok_iff.mp p.ofDraft
  have hsender := p.get_eq UserOperation.sender fun _ _ => rfl
  have hdata := p.get_eq UserOperation.callData fun _ _ => rfl
  have hcode := p.get_eq UserOperation.initCode UserOperation.initCode_applied
  rw [hstart] at hsender hdata hcode
  refine ⟨hsender, hdata, hcode.trans ?_⟩
  rw [UserOperation.initCode_shaped]
  cases a.pending p.deployed <;> rfl

/-- What a prepared operation is put together from. -/
structure Preparation.Composed (c : AccountConfig) (p : Preparation a calls o t op) : Prop where
  sender : op.operation.sender = a.address
  /-- What is appended to the data: 32 bytes if a mark is wanted, and nothing else. -/
  mark : a.mark = c.analytics.map Analytics.identifier
  length_mark : ∀ m, a.mark = some m → m.length = 32
  /-- An operation that deploys the account has the calls alone. The permission is among what
  the account does while it is set up. -/
  of_deploys : ∀ d, p.deployed = false → a.deployment = some d →
    op.operation.initCode = d.factory.toBytes ++ d.factoryData
      ∧ (∃ data, Call.Batch.encode a.contracts.batchers calls = .ok data
        ∧ op.operation.callData = data ++ a.mark.getD [])
      ∧ ∃ setup, d.SetsUp a.contracts setup
        ∧ setup.filter (·.mode = .call) = c.permission o
  /-- Any other operation has the permission in front of the calls. -/
  of_deployed : p.deployed = true ∨ a.deployment = none →
    op.operation.initCode = []
      ∧ ∃ data, Call.Batch.encode a.contracts.batchers
          (c.permission o ++ calls) = .ok data
        ∧ op.operation.callData = data ++ a.mark.getD []
  /-- The estimator gets a payment in which the token of the permission is named. -/
  named : ∀ g, c.grant o = some g →
    ∃ payment, a.paymentFor o = some payment ∧ payment.context = { token := some g.token }
  /-- A paymaster is told of this payment in every request of the run. -/
  told : a.node.Quiet → a.estimator.Faithful → ∀ x ∈ t, x.1.Names (a.paymentFor o)
  /-- So it is told of the token of the permission, and of nothing else. -/
  token_told : a.node.Quiet → a.estimator.Faithful → ∀ g, c.grant o = some g →
    ∀ x ∈ t, x.1.NamesToken g.token

theorem callData_eq_ok {data : Bytes} (h : a.callData calls = .ok data) :
    ∃ batch, Call.Batch.encode a.contracts.batchers calls = .ok batch
      ∧ data = batch ++ a.mark.getD [] := by
  unfold callData at h
  cases hbatch : Call.Batch.encode a.contracts.batchers calls with
  | ok batch =>
    rw [hbatch] at h
    exact ⟨batch, rfl, (Except.ok.inj h).symm⟩
  | error e =>
    rw [hbatch] at h
    cases h

theorem allCalls_none (payment : Option Payment) (calls : List Call) :
    allCalls none payment calls
      = (payment.bind Payment.approval).toList.map Approval.giving ++ calls := by
  unfold allCalls
  cases payment.bind Payment.approval <;> rfl

/-- All requests of a run name the payment, if nobody else asks a paymaster. -/
theorem Preparation.names (p : Preparation a calls o t op) (hnode : a.node.Quiet)
    (hestimator : a.estimator.Faithful) : ∀ x ∈ t, x.1.Names (a.paymentFor o) := by
  have hread : ∀ question, (readNode a.node question).run.Asks (Query.Names (a.paymentFor o)) := by
    intro question
    exact Attempt.asks_mapError ((hnode question).mono fun q => Query.Names.of_none)
  have hnonce : (a.nonceFor o).run.Asks (Query.Names (a.paymentFor o)) := by
    unfold nonceFor
    cases o.nonce with
    | none => exact hread _
    | some nonce => exact trivial
  have hthreshold : (a.thresholdFor (a.pending p.deployed)).run.Asks
      (Query.Names (a.paymentFor o)) := by
    unfold thresholdFor
    cases a.pending p.deployed with
    | none => exact hread _
    | some d => exact trivial
  have hestimate : ∀ operation, (Rpc.Bundler.estimate a.bundler operation a.entryPoint).run.Asks
      (Query.Names (a.paymentFor o)) := by
    intro operation
    have hmethod : "eth_estimateUserOperationGas" ∉ paymasterMethods := by decide
    exact Rpc.asks_ask (Query.names_of_not_mem hmethod) (Query.names_tell _)
  intro x hx
  rw [← p.parts_all] at hx
  simp only [PreparationParts.all, List.mem_append] at hx
  rcases hx with hx | hx | hx | hx | hx | hx
  · exact p.gives_deployed.forall_of_asks (hread _) x hx
  · exact p.gives_nonce.forall_of_asks hnonce x hx
  · exact p.gives_threshold.forall_of_asks hthreshold x hx
  · exact p.gives_before.forall_of_asks (hestimator.before _) x hx
  · exact p.gives_estimated.forall_of_asks (hestimate _) x hx
  · exact p.gives_after.forall_of_asks (hestimator.after _) x hx

/-- An operation is put together from the calls, what deploys the account, and the one
permission that a paymaster needs, which is given in one place. -/
theorem composed_of_create (hinit : (init c).Gives t₀ a) (h : (a.create calls o).Gives t op) :
    Nonempty (Preparation a calls o t op) ∧ ∀ p : Preparation a calls o t op, p.Composed c := by
  obtain ⟨opening⟩ := gives_init_iff.mp hinit
  refine ⟨gives_create_iff.mp h, fun p => ?_⟩
  obtain ⟨hsender, hdata, hcode⟩ := p.content
  obtain ⟨batch, hbatch, hp⟩ := callData_eq_ok p.callData
  have hmark : a.mark = c.analytics.map Analytics.identifier := opening.mark
  rw [← hdata] at hp
  constructor
  case sender => exact hsender
  case mark => exact hmark
  case length_mark =>
    intro m hm
    rw [hmark] at hm
    obtain ⟨analytics, -, rfl⟩ := Option.map_eq_some_iff.mp hm
    exact analytics.length_identifier
  case of_deploys =>
    intro d hdeployed hdeployment
    have hpending : a.pending p.deployed = some d :=
      pending_eq_some_iff.mpr ⟨hdeployed, hdeployment⟩
    obtain ⟨account, code, hd, -⟩ := opening.deployment_eq_some hdeployment
    -- The deployment is older than the choice of the token, so the check has to tie them.
    have htoken := p.checkToken
    rw [hpending] at htoken hcode hbatch
    refine ⟨hcode, ⟨batch, hbatch, hp⟩, _, hd ▸ Deployment.setsUp_prepare _ _ _ _, ?_⟩
    rw [Deployment.filter_setupCalls, AccountConfig.permission,
      ← approval_eq_grant opening.payment htoken]
    rfl
  case of_deployed =>
    intro hdeployed
    rw [pending_eq_none_iff.mpr hdeployed] at hcode hbatch
    rw [allCalls_none, approval_paymentFor opening.payment] at hbatch
    exact ⟨hcode, batch, hbatch, hp⟩
  case named => exact fun g hg => context_of_grant opening.payment hg
  case told => exact p.names
  case token_told =>
    intro hnode hestimator g hg x hx
    obtain ⟨payment, hpayment, hcontext⟩ := context_of_grant opening.payment hg
    have hnames := p.names hnode hestimator x hx
    rw [hpayment] at hnames
    exact hnames.namesToken hcontext

/-- A new account with one owner, which pays with a token. -/
def newcomer : AccountConfig where
  node := .external
  signer := .key ⟨7⟩
  bundlerUrl := "https://bundler"
  overrides := { entryPoint := some EntryPoint.v07.address }
  choice := .new ⟨[⟨7⟩], 1, 0, "1.4.1", .canonical⟩
  payment := some (.token "https://paymaster" ⟨8⟩ ⟨9⟩ (some 1000))
  analytics := some { project := "newcomer" }

/-- Its deployment, for a factory that deploys with three bytes of code. -/
def newcomerDeployment : Deployment :=
  Deployment.prepare (.canonical .v07) ⟨[⟨7⟩], 1, 0, "1.4.1", .canonical⟩
    { approval := some ⟨⟨9⟩, ⟨8⟩, 1000⟩ } [1, 2, 3]

def newcomerAccount : Account where
  node := .external
  signer := .key ⟨7⟩
  bundler := ⟨⟨"https", some (.domain "bundler"), none, "//bundler"⟩, "bundler"⟩
  estimator := .ofNode .external {}
  chainId := 1
  address := newcomerDeployment.account
  contracts := .canonical .v07
  entryPoint := EntryPoint.v07.address
  deployment := some newcomerDeployment
  payment := newcomer.payment
  mark := newcomer.analytics.map Analytics.identifier
  overhead := 10000

theorem gives_choice_newcomer :
    (resolveChoice newcomer newcomerAccount.contracts).Gives
      [⟨.node (.creationCode (Contracts.canonical .v07).proxyFactory), .ok [1, 2, 3]⟩]
      (newcomerDeployment.account, some newcomerDeployment) := by
  have hcode : (readNode newcomer.node
      (.creationCode (Contracts.canonical .v07).proxyFactory)).Gives
      [⟨.node (.creationCode (Contracts.canonical .v07).proxyFactory), .ok [1, 2, 3]⟩] [1, 2, 3] :=
    Attempt.gives_mapError_iff.mpr ((Program.runs_query_iff id).mpr rfl)
  have hextras : extrasFor newcomer.signer newcomer.payment
      = { approval := some ⟨⟨9⟩, ⟨8⟩, 1000⟩ } := rfl
  have hnew : (prepareNew newcomer.node newcomer.signer newcomerAccount.contracts
      ⟨[⟨7⟩], 1, 0, "1.4.1", .canonical⟩ newcomer.payment).Gives
      [⟨.node (.creationCode (Contracts.canonical .v07).proxyFactory), .ok [1, 2, 3]⟩]
      newcomerDeployment := by
    refine gives_prepareNew_iff.mpr ⟨rfl, rfl, [1, 2, 3], hcode, ?_⟩
    rw [hextras]
    rfl
  exact (gives_resolveChoice_new_iff rfl).mpr ⟨newcomerDeployment, hnew, rfl, rfl⟩

theorem gives_init_newcomer : ∃ t₀, (init newcomer).Gives t₀ newcomerAccount :=
  ⟨_, gives_init_iff.mpr ⟨{
    bundler := toOption_eq_some_iff.mp (by decide +kernel)
    askedChainId := [⟨.node .chainId, .ok 1⟩]
    askedEntryPoint := []
    askedChoice := [⟨.node (.creationCode (Contracts.canonical .v07).proxyFactory), .ok [1, 2, 3]⟩]
    asked := rfl
    gives_chainId := Attempt.gives_mapError_iff.mpr ((Program.runs_query_iff id).mpr rfl)
    modules := .release 0 3 0
    config_version := rfl
    required := .v07
    ofModules := rfl
    found := .canonical .v07
    resolve := rfl
    gives_entryPoint := Attempt.gives_ofExcept_iff.mpr ⟨rfl, rfl⟩
    contracts := rfl
    gives_choice := gives_choice_newcomer
    node := rfl
    signer := rfl
    estimator := rfl
    payment := rfl
    mark := rfl
    overhead := rfl }⟩⟩

/-- A service that answers every question about an operation with nothing new. -/
def noNews : Rpc.Reply :=
  .answer 200 (Bytes.ofText "\x7b\"result\":\x7b\x7d\x7d")

theorem interpret_noNews {method : String} (hmethod : method ∈
    ["pm_getPaymasterStubData", "eth_estimateUserOperationGas", "pm_getPaymasterData"]) :
    Rpc.interpret method Estimation.ofJson? noNews = .ok .empty := by
  have hall : ∀ method ∈
      ["pm_getPaymasterStubData", "eth_estimateUserOperationGas", "pm_getPaymasterData"],
      (Rpc.interpret method Estimation.ofJson? noNews).toOption = some .empty := by
    decide +kernel
  exact toOption_eq_some_iff.mp (hall method hmethod)

/-- The service behind the paymaster's URL. -/
def newcomerPaymaster : Endpoint :=
  ⟨⟨"https", some (.domain "paymaster"), none, "//paymaster"⟩, "paymaster"⟩

theorem connect_newcomerPaymaster :
    (Rpc.connect "https://paymaster").mapError PricingError.rpc = .ok newcomerPaymaster :=
  mapError_eq_ok_iff.mpr (toOption_eq_some_iff.mp (by decide +kernel))

theorem gives_before_newcomer (x : PricingContext) (hx : x.payment = newcomer.payment) :
    ∃ t, (newcomerAccount.estimator.before x).Gives t
      { maxFee := some 150, maxPriorityFee := some 15 } := by
  obtain ⟨operation, entryPoint, chainId, payment⟩ := x
  obtain rfl : payment = newcomer.payment := hx
  have hread : ∀ question (value : NodeQuery.Answer question),
      (Attempt.mapError PricingError.node (Node.external.read question)).Gives
        [⟨.node question, .ok value⟩] value := by
    intro question value
    exact Attempt.gives_mapError_iff.mpr ((Program.runs_query_iff id).mpr rfl)
  obtain ⟨t, hstub⟩ : ∃ t, (Estimator.stub newcomerPaymaster
      ⟨operation, entryPoint, chainId, newcomer.payment⟩
      (.token "https://paymaster" ⟨8⟩ ⟨9⟩ (some 1000))).Gives t .empty :=
    ⟨_, (Estimator.gives_stub_iff newcomerPaymaster).mpr
      ⟨noNews, rfl, interpret_noNews (by decide)⟩⟩
  refine ⟨[⟨.node .gasPrice, .ok 100⟩] ++ ([⟨.node .maxPriorityFee, .ok 10⟩] ++ (t ++ [])), ?_⟩
  refine Attempt.gives_bind_iff.mpr ⟨_, _, 100, rfl, hread _ _, ?_⟩
  refine Attempt.gives_bind_iff.mpr ⟨_, _, 10, rfl, hread _ _, ?_⟩
  refine Attempt.gives_tell_bind_iff.mpr ?_
  refine Attempt.gives_ofExcept_bind_iff.mpr ⟨_, connect_newcomerPaymaster, ?_⟩
  refine Attempt.gives_tell_bind_iff.mpr (Attempt.gives_bind_iff.mpr ⟨t, [], _, rfl, hstub, ?_⟩)
  exact Attempt.gives_pure_iff.mpr ⟨rfl, rfl⟩

theorem gives_after_newcomer (x : PricingContext) (hx : x.payment = newcomer.payment) :
    ∃ t, (newcomerAccount.estimator.after x).Gives t .empty := by
  obtain ⟨operation, entryPoint, chainId, payment⟩ := x
  obtain rfl : payment = newcomer.payment := hx
  exact ⟨_, Attempt.gives_ofExcept_bind_iff.mpr ⟨_, connect_newcomerPaymaster,
    (Estimator.gives_final_iff newcomerPaymaster).mpr
      ⟨noNews, rfl, interpret_noNews (by decide)⟩⟩⟩

theorem gives_create_newcomer :
    ∃ t op, (newcomerAccount.create [.plain ⟨1⟩ []] { nonce := some 3 }).Gives t op := by
  have hsound : (newcomerAccount.signingContext { nonce := some 3 }).Sound :=
    SigningContext.checkWindow_eq_ok_iff.mp rfl
  let data := Call.Batch.execute (.plain ⟨1⟩ []) ++ newcomerAccount.mark.getD []
  let draft := newcomerAccount.draftFor (some newcomerDeployment) 3 data
  let start : SafeOperation :=
    ⟨UserOperation.shaped .v07 draft, newcomerAccount.signingContext { nonce := some 3 }, .empty⟩
  let prices : Estimation := { maxFee := some 150, maxPriorityFee := some 15 }
  obtain ⟨t₁, hbefore⟩ := gives_before_newcomer
    (newcomerAccount.pricingContext newcomer.payment start) rfl
  obtain ⟨t₂, hafter⟩ := gives_after_newcomer
    (newcomerAccount.pricingContext newcomer.payment
      (newcomerAccount.staged 1 start [prices, .empty])) rfl
  exact ⟨_, _, gives_create_iff.mpr ⟨{
    parts := {
      deployed := [⟨.node (.isDeployed newcomerDeployment.account), .ok false⟩]
      nonce := []
      threshold := []
      before := t₁
      estimated := [⟨.post newcomerAccount.bundler ⟨"eth_estimateUserOperationGas", _⟩, noNews⟩]
      after := t₂ }
    parts_all := rfl
    calls_ne_nil := List.cons_ne_nil _ _
    deployed := false
    gives_deployed := Attempt.gives_mapError_iff.mpr ((Program.runs_query_iff id).mpr rfl)
    checkToken := rfl
    nonce := 3
    gives_nonce := Attempt.gives_pure_iff.mpr ⟨rfl, rfl⟩
    data := data
    callData := rfl
    start := start
    ofDraft := SafeOperation.ofDraft_eq_ok_iff.mpr
      ⟨.v07, hsound, rfl, (UserOperation.fits_iff rfl).mpr ⟨by decide, nofun, nofun⟩, rfl⟩
    threshold := 1
    gives_threshold := Attempt.gives_pure_iff.mpr ⟨rfl, rfl⟩
    before := prices
    gives_before := hbefore
    merge_before := rfl
    estimated := .empty
    gives_estimated := Rpc.gives_ask_iff.mpr ⟨noNews, rfl, interpret_noNews (by decide)⟩
    merge_estimated := rfl
    after := .empty
    gives_after := hafter
    merge_after := rfl }⟩⟩

theorem composed_of_create_newcomer :
    ∃ t₀ t op, (init newcomer).Gives t₀ newcomerAccount
      ∧ (newcomerAccount.create [.plain ⟨1⟩ []] { nonce := some 3 }).Gives t op
      ∧ newcomerAccount.node.Quiet ∧ newcomerAccount.estimator.Faithful
      ∧ newcomer.grant { nonce := some 3 } = some ⟨⟨9⟩, ⟨8⟩, 1000⟩
      ∧ ∃ p : Preparation newcomerAccount [.plain ⟨1⟩ []] { nonce := some 3 } t op,
          p.Composed newcomer := by
  obtain ⟨t₀, hinit⟩ := gives_init_newcomer
  obtain ⟨t, op, h⟩ := gives_create_newcomer
  obtain ⟨⟨p⟩, hcomposed⟩ := composed_of_create hinit h
  exact ⟨t₀, t, op, hinit, h, Node.quiet_external,
    Estimator.faithful_ofNode Node.quiet_external {}, rfl, p, hcomposed p⟩

end Account

end SafeOps
