import Mathlib.Algebra.Group.Nat.Defs
import Mathlib.Data.List.Induction
import SafeOps.Proofs.Account.Preparation
import SafeOps.Proofs.GasPrice
import SafeOps.Proofs.SafeOperation.Construction

/-!
# `SafeOps.Proofs.Account.Pricing`: the gas an operation is prepared with

Each of the three stages of pricing knows some of the gas fields. A field counts as the last
stage that knows it says (`lastKnown`), whatever the stages before said: `get_staged` is an
induction over the stages, for any number of them. The gas for the validation is the one field
that is changed on the way. The overhead of the signatures is added to what a stage says, and
since the next stage replaces the sum, it is never added twice.

`priced_of_create` says so of every operation that is prepared, for any estimator and any
answers of the bundler: `Priced` lists the clauses.
-/

set_option autoImplicit false

namespace SafeOps

/-! ### What the stages know -/

/-- What the last stage that knows a field says about it. -/
def lastKnown (field : Estimation → Option Word) (stages : List Estimation) : Option Word :=
  (stages.filterMap field).getLast?

theorem lastKnown_concat (field : Estimation → Option Word) (stages : List Estimation)
    (e : Estimation) :
    lastKnown field (stages ++ [e]) = (field e).or (lastKnown field stages) := by
  rw [lastKnown, lastKnown, List.filterMap_append]
  cases h : field e with
  | none => simp [h]
  | some x => simp [h]

theorem lastKnown_map (field : Estimation → Option Word) (f : Word → Word)
    (stages : List Estimation) :
    lastKnown (fun e => (field e).map f) stages = (lastKnown field stages).map f := by
  rw [lastKnown, lastKnown, ← List.map_filterMap, List.getLast?_map]

namespace Account

/-- The gas for the validation, with the overhead of all signatures. -/
def covering (overhead threshold : BitVec 64) (gas : Word) : Word :=
  saturate (gas.toNat + (saturate (threshold.toNat * overhead.toNat)).toNat)

theorem toNat_covering (overhead threshold : BitVec 64) (gas : Word) :
    (covering overhead threshold gas).toNat
      = min (gas.toNat + min (threshold.toNat * overhead.toNat) (limit 256 - 1))
          (limit 256 - 1) := by
  rw [covering, toNat_saturate, toNat_saturate]

variable (a : Account) (threshold : BitVec 64)

/-- A field that each stage replaces if it knows it is what the last of them says. -/
theorem get_staged (get : UserOperation → Word) {known : Estimation → Option Word}
    (hget : ∀ u e, get (u.applied (withOverhead a.overhead threshold e)) = (known e).getD (get u))
    (op : SafeOperation) (stages : List Estimation) :
    get (a.staged threshold op stages).operation
      = (lastKnown known stages).getD (get op.operation) := by
  -- The induction is from the last stage back, since the last stage decides.
  induction stages using List.reverseRecOn with
  | nil => rfl
  | append_singleton stages e ih =>
    rw [staged_concat, lastKnown_concat]
    show get ((a.staged threshold op stages).operation.applied _) = _
    rw [hget, ih]
    cases known e <;> rfl

/-! ### What is prepared -/

variable {a} {calls : List Call} {o : OperationOptions} {t : List Exchange} {op : SafeOperation}

/-- Before it is priced an operation has the placeholder in every gas field. -/
theorem Preparation.gas_start (p : Preparation a calls o t op) :
    p.start.operation.gas = .placeholder ∧ p.start.signatures = .empty := by
  obtain ⟨generation, -, -, -, hstart⟩ := SafeOperation.ofDraft_eq_ok_iff.mp p.ofDraft
  rw [hstart]
  exact ⟨rfl, rfl⟩

def Preparation.stages (p : Preparation a calls o t op) : List Estimation :=
  [p.before, p.estimated, p.after]

/-- What a prepared operation offers for its gas. -/
structure Preparation.Priced (p : Preparation a calls o t op) : Prop where
  /-- An operation that deploys the account needs the threshold the account will have. -/
  threshold_of_deploys : ∀ d, p.deployed = false → a.deployment = some d →
    p.parts.threshold = [] ∧ p.threshold = d.threshold
  threshold_of_deployed : p.deployed = true ∨ a.deployment = none →
    (readNode a.node (.threshold a.address)).Gives p.parts.threshold p.threshold
  call : op.operation.gas.call = (lastKnown (·.callGas) p.stages).getD 1
  preVerification :
    op.operation.gas.preVerification = (lastKnown (·.preVerificationGas) p.stages).getD 1
  maxFee : op.operation.gas.maxFee = (lastKnown (·.maxFee) p.stages).getD 1
  maxPriorityFee :
    op.operation.gas.maxPriorityFee = (lastKnown (·.maxPriorityFee) p.stages).getD 1
  /-- One overhead for each signature is added to what the last stage says. -/
  verification_of_known : ∀ gas, lastKnown (·.verificationGas) p.stages = some gas →
    op.operation.gas.verification.toNat
      = min (gas.toNat + min (p.threshold.toNat * a.overhead.toNat) (2 ^ 256 - 1)) (2 ^ 256 - 1)
  verification_of_unknown : lastKnown (·.verificationGas) p.stages = none →
    op.operation.gas.verification = 1
  signatures : op.signatures = .empty

/-- A gas field of a prepared operation is what the last stage that knows it says. -/
theorem Preparation.gas_eq (p : Preparation a calls o t op) (get : Gas → Word)
    {known : Estimation → Option Word}
    (hget : ∀ (g : Gas) e,
      get (g.merge (withOverhead a.overhead p.threshold e)) = (known e).getD (get g)) :
    get op.operation.gas = (lastKnown known p.stages).getD (get .placeholder) := by
  have hop : op = a.staged p.threshold p.start p.stages := p.op_eq
  have hstaged := get_staged a p.threshold (fun u => get u.gas) (fun u e => hget u.gas e)
    p.start p.stages
  rwa [p.gas_start.1, ← hop] at hstaged

theorem Preparation.threshold_of_pending (p : Preparation a calls o t op) {d : Deployment}
    (h : a.pending p.deployed = some d) : p.parts.threshold = [] ∧ p.threshold = d.threshold := by
  have hgives := p.gives_threshold
  rw [h] at hgives
  obtain ⟨hparts, hthreshold⟩ := Attempt.gives_pure_iff.mp hgives
  exact ⟨hparts, hthreshold.symm⟩

/-- The gas of a prepared operation is that of the last stage that knows it, for every estimator
and all answers of the bundler, however the run is taken apart. -/
theorem priced_of_create (h : (a.create calls o).Gives t op) :
    Nonempty (Preparation a calls o t op) ∧ ∀ p : Preparation a calls o t op, p.Priced := by
  refine ⟨gives_create_iff.mp h, fun p => ?_⟩
  have hverification : op.operation.gas.verification
      = ((lastKnown (·.verificationGas) p.stages).map
          (covering a.overhead p.threshold)).getD 1 := by
    rw [← lastKnown_map]
    exact p.gas_eq (·.verification) fun g e => rfl
  constructor
  case threshold_of_deploys =>
    intro d hdeployed hdeployment
    exact p.threshold_of_pending (pending_eq_some_iff.mpr ⟨hdeployed, hdeployment⟩)
  case threshold_of_deployed =>
    intro hdeployed
    have hgives := p.gives_threshold
    rwa [pending_eq_none_iff.mpr hdeployed] at hgives
  case call => exact p.gas_eq (·.call) fun g e => rfl
  case preVerification => exact p.gas_eq (·.preVerification) fun g e => rfl
  case maxFee => exact p.gas_eq (·.maxFee) fun g e => rfl
  case maxPriorityFee => exact p.gas_eq (·.maxPriorityFee) fun g e => rfl
  case verification_of_known =>
    intro gas hknown
    rw [hverification, hknown]
    exact toNat_covering a.overhead p.threshold gas
  case verification_of_unknown =>
    intro hunknown
    rw [hverification, hunknown]
    rfl
  case signatures =>
    rw [p.op_eq]
    exact p.gas_start.2

/-- An account whose estimator knows a price beforehand and a better one afterwards. -/
def priced : Account where
  node := .external
  signer := .key ⟨7⟩
  bundler := ⟨⟨"https", some (.domain "bundler"), none, "//bundler"⟩, "bundler"⟩
  estimator := {
    before := fun _ => pure { maxFee := some 9, verificationGas := some 50 }
    after := fun _ => pure { maxFee := some 8 } }
  chainId := 1
  address := ⟨5⟩
  contracts := .canonical .v07
  entryPoint := EntryPoint.v07.address
  deployment := none
  payment := none
  mark := none
  overhead := 10000

/-- What a bundler says about an operation of the account. -/
def pricedReply : Rpc.Reply :=
  .answer 200 (Bytes.ofText
    "\x7b\"result\":\x7b\"callGasLimit\":\"0x5\",\"verificationGasLimit\":\"0x64\"\x7d\x7d")

theorem interpret_pricedReply :
    Rpc.interpret "eth_estimateUserOperationGas" Estimation.ofJson? pricedReply
      = .ok { callGas := some 5, verificationGas := some 100 } := by
  apply toOption_eq_some_iff.mp
  decide +kernel

/-- The node says that the account is deployed and that two owners have to sign. -/
theorem gives_create_priced :
    ∃ t op, (priced.create [.plain ⟨1⟩ []] { nonce := some 3 }).Gives t op
      ∧ op.operation.gas = ⟨5, 20100, 1, 8, 1⟩ := by
  have hsound : (priced.signingContext { nonce := some 3 }).Sound :=
    SigningContext.checkWindow_eq_ok_iff.mp rfl
  refine ⟨_, _, gives_create_iff.mpr ⟨{
    parts := {
      deployed := [⟨.node (.isDeployed ⟨5⟩), .ok true⟩]
      nonce := []
      threshold := [⟨.node (.threshold ⟨5⟩), .ok 2⟩]
      before := []
      estimated := [⟨.post priced.bundler ⟨"eth_estimateUserOperationGas", _⟩, pricedReply⟩]
      after := [] }
    parts_all := rfl
    calls_ne_nil := List.cons_ne_nil _ _
    deployed := true
    gives_deployed := Attempt.gives_mapError_iff.mpr ((Program.runs_query_iff id).mpr rfl)
    checkToken := rfl
    nonce := 3
    gives_nonce := Attempt.gives_pure_iff.mpr ⟨rfl, rfl⟩
    data := Call.Batch.execute (.plain ⟨1⟩ []) ++ []
    callData := rfl
    start := _
    ofDraft := SafeOperation.ofDraft_eq_ok_iff.mpr
      ⟨.v07, hsound, rfl, (UserOperation.fits_iff rfl).mpr ⟨by decide, nofun, nofun⟩, rfl⟩
    threshold := 2
    gives_threshold := Attempt.gives_mapError_iff.mpr ((Program.runs_query_iff id).mpr rfl)
    before := { maxFee := some 9, verificationGas := some 50 }
    gives_before := Attempt.gives_pure_iff.mpr ⟨rfl, rfl⟩
    merge_before := rfl
    estimated := { callGas := some 5, verificationGas := some 100 }
    gives_estimated := Rpc.gives_ask_iff.mpr ⟨pricedReply, rfl, interpret_pricedReply⟩
    merge_estimated := rfl
    after := { maxFee := some 8 }
    gives_after := Attempt.gives_pure_iff.mpr ⟨rfl, rfl⟩
    merge_after := rfl }⟩, rfl⟩

theorem priced_of_create_twoOwners :
    ∃ t op, (priced.create [.plain ⟨1⟩ []] { nonce := some 3 }).Gives t op
      ∧ op.operation.gas = ⟨5, 20100, 1, 8, 1⟩
      ∧ ∃ p : Preparation priced [.plain ⟨1⟩ []] { nonce := some 3 } t op, p.Priced := by
  obtain ⟨t, op, h, hgas⟩ := gives_create_priced
  obtain ⟨⟨p⟩, hpriced⟩ := priced_of_create h
  exact ⟨t, op, h, hgas, p, hpriced p⟩

end Account

end SafeOps
