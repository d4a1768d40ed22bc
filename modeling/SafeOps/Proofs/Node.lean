import SafeOps.Node.Remote
import SafeOps.Proofs.Rpc.Client

/-!
# `SafeOps.Proofs.Node`: a question to a node is one exchange

A node may answer a question in any way. A `Direct` node turns each question into exactly one
exchange with the world, whatever becomes of it. Both kinds of nodes here are direct: one hands the
question on as it is, and the other sends one request and reads the answer out of the reply.

The node behind a service sends requests of a few methods to that service, and asks nothing else
(`asks_remote`).
-/

set_option autoImplicit false

namespace SafeOps

/-- The program exchanges one thing with the world, whether it succeeds or not. -/
def Attempt.Once {ε α : Type} (p : Attempt ε α) : Prop :=
  ∀ t r, p.Ends t r → t.length = 1

namespace Attempt

variable {ε ε' α β : Type}

theorem Once.mapError {p : Attempt ε α} (h : p.Once) (f : ε → ε') : (mapError f p).Once := by
  intro t r hends
  obtain ⟨r', hp, -⟩ := ends_mapError_iff.mp hends
  exact h t r' hp

/-- Reading a result asks nothing more. -/
theorem Once.bind_ofExcept {p : Attempt ε α} (h : p.Once) {f : α → Attempt ε β}
    (hf : ∀ a, ∃ x, f a = ofExcept x) : (p >>= f).Once := by
  intro t r hends
  rcases ends_bind_iff.mp hends with ⟨e, hp, -⟩ | ⟨t₁, t₂, a, rfl, hp, hrest⟩
  · exact h t _ hp
  · obtain ⟨x, hx⟩ := hf a
    rw [hx] at hrest
    obtain ⟨rfl, -⟩ := ends_ofExcept_iff.mp hrest
    rw [List.append_nil]
    exact h t₁ _ hp

end Attempt

theorem Rpc.once_ask {α : Type} {service : Endpoint} {method : String} {params : Json}
    {read : Json → Option α} : (ask service method params read).Once := by
  intro t r hends
  obtain ⟨reply, rfl, -⟩ := ends_ask_iff.mp hends
  rfl

namespace Node

/-- Each question to the node is one exchange. -/
def Direct (node : Node) : Prop :=
  ∀ question, (node.read question).Once

theorem direct_external : external.Direct := by
  intro question t r hends
  obtain rfl := (Program.runs_query_iff id).mp hends
  rfl

theorem once_method {α : Type} {service : Endpoint} {name : String} {params : List Json}
    {read : Json → Option α} : (method service name params read).Once :=
  Rpc.once_ask.mapError _

theorem once_call {service : Endpoint} {target : Address} {f : Abi.Function} {data : Bytes}
    {result : Abi.Ty} : (call service target f data result).Once := by
  refine once_method.bind_ofExcept fun output => ?_
  cases Abi.decode [result] output with
  | ok values => exact ⟨.ok values.1, rfl⟩
  | error fault => exact ⟨.error _, rfl⟩

theorem direct_remote (service : Endpoint) : (remote service).Direct := by
  intro question
  cases question with
  | chainId => exact once_method
  | isDeployed address => exact once_method.bind_ofExcept fun code => ⟨.ok _, rfl⟩
  | owners account => exact once_call
  | threshold account =>
    refine once_call.bind_ofExcept fun value => ?_
    by_cases h : BitVec.toNat value < limit 64
    · exact ⟨.ok (BitVec.setWidth 64 value), if_pos h⟩
    · exact ⟨.error _, if_neg h⟩
  | version account => exact once_call
  | isModuleEnabled account module => exact once_call
  | fallbackHandler account => exact once_method.bind_ofExcept fun word => ⟨.ok _, rfl⟩
  | nonce entryPoint sender key => exact once_call
  | creationCode factory => exact once_call
  | gasPrice => exact once_method
  | maxPriorityFee => exact once_method

/-! ### What a node asks -/

/-- The methods by which the node behind a service asks it. -/
def methods : List String :=
  ["eth_chainId", "eth_getCode", "eth_call", "eth_getStorageAt", "eth_gasPrice",
    "eth_maxPriorityFeePerGas"]

section Asks

variable {P : Query → Prop} {service : Endpoint}
  (hpost : ∀ name params, name ∈ methods → P (.post service ⟨name, params⟩))
  (htell : ∀ level context text, P (.tell level context text))

include hpost htell

theorem asks_method {α : Type} {name : String} {params : List Json} {read : Json → Option α}
    (h : name ∈ methods) : (method service name params read).run.Asks P :=
  Attempt.asks_mapError (Rpc.asks_ask (hpost name _ h) htell)

theorem asks_call {target : Address} {f : Abi.Function} {data : Bytes} {result : Abi.Ty} :
    (call service target f data result).run.Asks P := by
  refine Attempt.asks_bind (asks_method hpost htell (by decide)) fun output => ?_
  cases Abi.decode [result] output with
  | ok values => exact trivial
  | error fault => exact trivial

/-- The node behind a service asks that service, by methods of a node. -/
theorem asks_remote (question : NodeQuery) :
    ((remote service).read question).run.Asks P := by
  cases question with
  | chainId => exact asks_method hpost htell (by decide)
  | isDeployed address =>
    exact Attempt.asks_bind (asks_method hpost htell (by decide)) fun code => trivial
  | owners account => exact asks_call hpost htell
  | threshold account =>
    refine Attempt.asks_bind (asks_call hpost htell) fun value => ?_
    by_cases h : BitVec.toNat value < limit 64
    · rw [if_pos h]
      exact trivial
    · rw [if_neg h]
      exact trivial
  | version account => exact asks_call hpost htell
  | isModuleEnabled account module => exact asks_call hpost htell
  | fallbackHandler account =>
    exact Attempt.asks_bind (asks_method hpost htell (by decide)) fun word => trivial
  | nonce entryPoint sender key => exact asks_call hpost htell
  | creationCode factory => exact asks_call hpost htell
  | gasPrice => exact asks_method hpost htell (by decide)
  | maxPriorityFee => exact asks_method hpost htell (by decide)

end Asks

end Node

end SafeOps
