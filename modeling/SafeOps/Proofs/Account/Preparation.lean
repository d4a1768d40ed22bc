import SafeOps.Account.Preparation
import SafeOps.Proofs.Rpc.Client
import SafeOps.Proofs.SafeOperation.Run

/-!
# `SafeOps.Proofs.Account.Preparation`: all that preparing an operation can do

An operation is prepared in a fixed order of questions and checks. A `Preparation` holds what
came up on the way of a run that succeeds: the answers, the part of the transcript each of them
was found in, and the checks that were passed. `gives_create_iff` says that these are exactly the
runs that succeed, so every statement about prepared operations can start from the fields of a
`Preparation` and need not look into the program again.

The three stages of pricing only replace fields of the operation: the outcome is the operation
as it was put together, with the stages laid over it one after another (`staged`).
-/

set_option autoImplicit false

namespace SafeOps

namespace Account

/-! ### Stages -/

/-- An operation with stages of pricing laid over it, the overhead of the signatures included. -/
def staged (a : Account) (threshold : BitVec 64) (op : SafeOperation)
    (stages : List Estimation) : SafeOperation :=
  { op with
    operation := stages.foldl (fun u e => u.applied (withOverhead a.overhead threshold e))
      op.operation }

theorem staged_concat (a : Account) (threshold : BitVec 64) (op : SafeOperation)
    (stages : List Estimation) (e : Estimation) :
    a.staged threshold op (stages ++ [e])
      = a.staged threshold (a.staged threshold op stages) [e] := by
  simp only [staged, List.foldl_append, List.foldl_cons, List.foldl_nil]

/-- What no estimation changes the stages do not change. -/
theorem staged_eq {α : Type} (get : UserOperation → α) (hget : ∀ u e, get (u.applied e) = get u)
    (a : Account) (threshold : BitVec 64) (op : SafeOperation) (stages : List Estimation) :
    get (a.staged threshold op stages).operation = get op.operation := by
  induction stages generalizing op with
  | nil => rfl
  | cons e stages ih =>
    have hrest := ih (a.staged threshold op [e])
    rw [show get (a.staged threshold op [e]).operation = get op.operation from hget _ _] at hrest
    exact hrest

/-- A stage that is accepted replaces the fields it knows. -/
theorem mergeStage_eq_ok {a : Account} {threshold : BitVec 64} {op op' : SafeOperation}
    {e : Estimation} (h : a.mergeStage threshold op e = .ok op') :
    op' = a.staged threshold op [e] := by
  unfold mergeStage at h
  obtain ⟨_, hok, rfl⟩ := map_eq_ok_iff.mp (mapError_eq_ok_iff.mp h)
  exact SafeOperation.step_estimate_of_ok hok

/-! ### The parts of a run -/

/-- The deployment that an operation has to carry, unless the account was found deployed. -/
def pending (a : Account) (deployed : Bool) : Option Deployment :=
  if deployed then none else a.deployment

theorem pending_eq_some_iff {a : Account} {deployed : Bool} {d : Deployment} :
    a.pending deployed = some d ↔ deployed = false ∧ a.deployment = some d := by
  cases deployed with
  | false => exact ⟨fun h => ⟨rfl, h⟩, fun h => h.2⟩
  | true => exact ⟨nofun, fun h => nomatch h.1⟩

theorem pending_eq_none_iff {a : Account} {deployed : Bool} :
    a.pending deployed = none ↔ deployed = true ∨ a.deployment = none := by
  cases deployed <;> simp [pending]

/-- The nonce the caller wants, or the next one of the default lane. -/
def nonceFor (a : Account) (o : OperationOptions) : Attempt AccountError Word :=
  match o.nonce with
  | some nonce => pure nonce
  | none => readNode a.node (.nonce a.entryPoint a.address 0)

/-- How many owners have to sign. -/
def thresholdFor (a : Account) (deployment : Option Deployment) :
    Attempt AccountError (BitVec 64) :=
  match deployment with
  | some d => pure d.threshold
  | none => readNode a.node (.threshold a.address)

/-- The operation before it takes a shape. -/
def draftFor (a : Account) (deployment : Option Deployment) (nonce : Word) (data : Bytes) :
    Draft where
  sender := a.address
  nonce := nonce
  callData := data
  deployment := deployment.map fun d => (d.factory, d.factoryData)

/-- The part of a run that comes after the question whether the account is deployed. -/
def createWith (a : Account) (calls : List Call) (o : OperationOptions)
    (deployment : Option Deployment) : Attempt AccountError SafeOperation := do
  Attempt.ofExcept (a.checkToken deployment o)
  let nonce ← a.nonceFor o
  let data ← Attempt.ofExcept (a.callData (allCalls deployment (a.paymentFor o) calls))
  let op ← Attempt.ofExcept ((SafeOperation.ofDraft (a.draftFor deployment nonce data)
    (a.signingContext o)).mapError .operation)
  let threshold ← a.thresholdFor deployment
  Attempt.tell .debug ("pack.create_transaction calls="
    ++ toString (allCalls deployment (a.paymentFor o) calls).length ++ " nonce="
    ++ Quantity.decimal nonce ++ " deploys=" ++ toString deployment.isSome ++ " threshold="
    ++ Quantity.decimal threshold)
  a.price op threshold (a.paymentFor o)

theorem create_eq (a : Account) (calls : List Call) (o : OperationOptions) :
    a.create calls o = Attempt.within logModule (
      if calls.isEmpty then throw (.calls .noCalls)
      else do
        let deployed ← readNode a.node (.isDeployed a.address)
        a.createWith calls o (a.pending deployed)) := by
  by_cases hempty : calls.isEmpty = true
  · rw [create, if_pos hempty, if_pos hempty]
    rfl
  · rw [create, if_neg hempty, if_neg hempty]
    refine congrArg
      (fun f => Attempt.within logModule (readNode a.node (.isDeployed a.address) >>= f))
      (funext fun deployed => ?_)
    rw [createWith, nonceFor, ← pending]
    -- Where an answer is known beforehand nothing is asked; either way the rest is the same.
    cases o.nonce <;> cases a.pending deployed <;> rfl

/-! ### What came up in a run -/

/-- The exchanges of a run, cut where one question leads on to the next. -/
structure PreparationParts where
  deployed : List Exchange
  nonce : List Exchange
  threshold : List Exchange
  before : List Exchange
  estimated : List Exchange
  after : List Exchange

def PreparationParts.all (p : PreparationParts) : List Exchange :=
  p.deployed ++ (p.nonce ++ (p.threshold ++ (p.before ++ (p.estimated ++ p.after))))

/-- What came up in a run that prepared an operation, in the order in which it came up. -/
structure Preparation (a : Account) (calls : List Call) (o : OperationOptions)
    (t : List Exchange) (op : SafeOperation) where
  parts : PreparationParts
  parts_all : parts.all = t
  calls_ne_nil : calls ≠ []
  /-- Whether the node found code at the address. -/
  deployed : Bool
  gives_deployed : (readNode a.node (.isDeployed a.address)).Gives parts.deployed deployed
  checkToken : a.checkToken (a.pending deployed) o = .ok ()
  nonce : Word
  gives_nonce : (a.nonceFor o).Gives parts.nonce nonce
  data : Bytes
  callData : a.callData (allCalls (a.pending deployed) (a.paymentFor o) calls) = .ok data
  /-- The operation as it is put together, before it is priced. -/
  start : SafeOperation
  ofDraft : SafeOperation.ofDraft (a.draftFor (a.pending deployed) nonce data) (a.signingContext o)
    = .ok start
  threshold : BitVec 64
  gives_threshold : (a.thresholdFor (a.pending deployed)).Gives parts.threshold threshold
  before : Estimation
  gives_before : (a.estimator.before (a.pricingContext (a.paymentFor o) start)).Gives
    parts.before before
  merge_before : a.mergeStage threshold start before = .ok (a.staged threshold start [before])
  estimated : Estimation
  gives_estimated : (Rpc.Bundler.estimate a.bundler
    (a.withDummy (a.staged threshold start [before])) a.entryPoint).Gives parts.estimated estimated
  merge_estimated : a.mergeStage threshold (a.staged threshold start [before]) estimated
    = .ok (a.staged threshold start [before, estimated])
  after : Estimation
  gives_after : (a.estimator.after (a.pricingContext (a.paymentFor o)
    (a.staged threshold start [before, estimated]))).Gives parts.after after
  merge_after : a.mergeStage threshold (a.staged threshold start [before, estimated]) after = .ok op

variable {a : Account} {calls : List Call} {o : OperationOptions} {t : List Exchange}
  {op op' : SafeOperation}

theorem Preparation.op_eq (p : Preparation a calls o t op) :
    op = a.staged p.threshold p.start [p.before, p.estimated, p.after] := by
  have hop := mergeStage_eq_ok p.merge_after
  rwa [← staged_concat] at hop

theorem Preparation.get_eq {α : Type} (p : Preparation a calls o t op) (get : UserOperation → α)
    (hget : ∀ u e, get (u.applied e) = get u) : get op.operation = get p.start.operation := by
  have hstaged := staged_eq get hget a p.threshold p.start [p.before, p.estimated, p.after]
  rwa [← p.op_eq] at hstaged

/-- Pricing succeeds if the three stages are found and accepted, one after another. -/
theorem gives_price_iff {threshold : BitVec 64} {payment : Option Payment} :
    (a.price op threshold payment).Gives t op' ↔
      ∃ t₁ t₂ t₃ before estimated after, t = t₁ ++ (t₂ ++ t₃)
        ∧ (a.estimator.before (a.pricingContext payment op)).Gives t₁ before
        ∧ a.mergeStage threshold op before = .ok (a.staged threshold op [before])
        ∧ (Rpc.Bundler.estimate a.bundler (a.withDummy (a.staged threshold op [before]))
            a.entryPoint).Gives t₂ estimated
        ∧ a.mergeStage threshold (a.staged threshold op [before]) estimated
            = .ok (a.staged threshold op [before, estimated])
        ∧ (a.estimator.after (a.pricingContext payment
            (a.staged threshold op [before, estimated]))).Gives t₃ after
        ∧ a.mergeStage threshold (a.staged threshold op [before, estimated]) after = .ok op' := by
  constructor
  · intro h
    obtain ⟨t₁, t', before, rfl, hbefore, h₁⟩ := Attempt.gives_bind_iff.mp h
    -- An accepted stage says what the operation has become, which the next stage gets to see.
    obtain ⟨op₁, hmerge₁, h₂⟩ := Attempt.gives_ofExcept_bind_iff.mp h₁
    obtain rfl := mergeStage_eq_ok hmerge₁
    obtain ⟨t₂, t₃, estimated, rfl, hestimated, h₃⟩ := Attempt.gives_bind_iff.mp h₂
    rw [Attempt.gives_tell_bind_iff] at h₃
    obtain ⟨op₂, hmerge₂, h₄⟩ := Attempt.gives_ofExcept_bind_iff.mp h₃
    have hop₂ := mergeStage_eq_ok hmerge₂
    rw [← staged_concat] at hop₂
    subst hop₂
    obtain ⟨t₃, t₄, after, rfl, hafter, h₅⟩ := Attempt.gives_bind_iff.mp h₄
    obtain ⟨rfl, hmerge₃⟩ := Attempt.gives_ofExcept_iff.mp h₅
    rw [Attempt.gives_mapError_iff] at hbefore hestimated hafter
    exact ⟨t₁, t₂, t₃, before, estimated, after, by rw [List.append_nil], hbefore, hmerge₁,
      hestimated, hmerge₂, hafter, hmerge₃⟩
  · rintro ⟨t₁, t₂, t₃, before, estimated, after, rfl, hbefore, hmerge₁, hestimated, hmerge₂,
      hafter, hmerge₃⟩
    refine Attempt.gives_bind_iff.mpr
      ⟨t₁, t₂ ++ t₃, before, rfl, Attempt.gives_mapError_iff.mpr hbefore, ?_⟩
    refine Attempt.gives_ofExcept_bind_iff.mpr ⟨_, hmerge₁, ?_⟩
    refine Attempt.gives_bind_iff.mpr
      ⟨t₂, t₃, estimated, rfl, Attempt.gives_mapError_iff.mpr hestimated, ?_⟩
    refine Attempt.gives_tell_bind_iff.mpr (Attempt.gives_ofExcept_bind_iff.mpr ⟨_, hmerge₂, ?_⟩)
    exact Attempt.gives_bind_iff.mpr ⟨t₃, [], after, (List.append_nil t₃).symm,
      Attempt.gives_mapError_iff.mpr hafter, Attempt.gives_ofExcept_iff.mpr ⟨rfl, hmerge₃⟩⟩

/-- The runs that prepare an operation are those in which all answers and checks come up. -/
theorem gives_create_iff :
    (a.create calls o).Gives t op ↔ Nonempty (Preparation a calls o t op) := by
  rw [create_eq, Attempt.gives_within_iff]
  by_cases hempty : calls.isEmpty = true
  · rw [if_pos hempty]
    constructor
    · intro h
      exact (Attempt.not_gives_throw h).elim
    · rintro ⟨p⟩
      exact (p.calls_ne_nil (List.isEmpty_iff.mp hempty)).elim
  · rw [if_neg hempty, Attempt.gives_bind_iff]
    constructor
    · rintro ⟨t₁, t', deployed, rfl, hdeployed, h₁⟩
      obtain ⟨u, htoken, h₂⟩ := Attempt.gives_ofExcept_bind_iff.mp h₁
      obtain ⟨t₂, t', nonce, rfl, hnonce, h₃⟩ := Attempt.gives_bind_iff.mp h₂
      obtain ⟨data, hdata, h₄⟩ := Attempt.gives_ofExcept_bind_iff.mp h₃
      obtain ⟨start, hstart, h₅⟩ := Attempt.gives_ofExcept_bind_iff.mp h₄
      obtain ⟨t₃, t', threshold, rfl, hthreshold, h₆⟩ := Attempt.gives_bind_iff.mp h₅
      obtain ⟨t₄, t₅, t₆, before, estimated, after, rfl, hbefore, hmerge₁, hestimated, hmerge₂,
        hafter, hmerge₃⟩ := gives_price_iff.mp (Attempt.gives_tell_bind_iff.mp h₆)
      exact ⟨{
        parts := ⟨t₁, t₂, t₃, t₄, t₅, t₆⟩
        parts_all := rfl
        calls_ne_nil := fun hnil => hempty (List.isEmpty_iff.mpr hnil)
        deployed := deployed
        gives_deployed := hdeployed
        checkToken := htoken
        nonce := nonce
        gives_nonce := hnonce
        data := data
        callData := hdata
        start := start
        ofDraft := mapError_eq_ok_iff.mp hstart
        threshold := threshold
        gives_threshold := hthreshold
        before := before
        gives_before := hbefore
        merge_before := hmerge₁
        estimated := estimated
        gives_estimated := hestimated
        merge_estimated := hmerge₂
        after := after
        gives_after := hafter
        merge_after := hmerge₃ }⟩
    · rintro ⟨p⟩
      refine ⟨p.parts.deployed, _, p.deployed, p.parts_all.symm, p.gives_deployed, ?_⟩
      refine Attempt.gives_ofExcept_bind_iff.mpr ⟨(), p.checkToken, ?_⟩
      refine Attempt.gives_bind_iff.mpr ⟨p.parts.nonce, _, p.nonce, rfl, p.gives_nonce, ?_⟩
      refine Attempt.gives_ofExcept_bind_iff.mpr ⟨p.data, p.callData, ?_⟩
      refine Attempt.gives_ofExcept_bind_iff.mpr
        ⟨p.start, mapError_eq_ok_iff.mpr p.ofDraft, ?_⟩
      refine Attempt.gives_bind_iff.mpr
        ⟨p.parts.threshold, _, p.threshold, rfl, p.gives_threshold, ?_⟩
      exact Attempt.gives_tell_bind_iff.mpr (gives_price_iff.mpr
        ⟨p.parts.before, p.parts.estimated, p.parts.after, p.before, p.estimated, p.after, rfl,
          p.gives_before, p.merge_before, p.gives_estimated, p.merge_estimated, p.gives_after,
          p.merge_after⟩)

end Account

end SafeOps
