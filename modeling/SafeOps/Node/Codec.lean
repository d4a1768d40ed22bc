import SafeOps.Json.Field
import SafeOps.Node

/-!
# `SafeOps.Node.Codec`: questions to a node as JSON

A question has a kind and arguments, and its answer is written according to the kind.
-/

set_option autoImplicit false

namespace SafeOps.NodeQuery

/-- The kind of a question. -/
def kind : NodeQuery → String
  | .chainId => "chain_id"
  | .isDeployed _ => "is_deployed"
  | .owners _ => "owners"
  | .threshold _ => "threshold"
  | .version _ => "version"
  | .isModuleEnabled _ _ => "is_module_enabled"
  | .fallbackHandler _ => "fallback_handler"
  | .nonce _ _ _ => "get_nonce"
  | .creationCode _ => "proxy_creation_code"
  | .gasPrice => "gas_price"
  | .maxPriorityFee => "max_priority_fee_per_gas"

/-- The arguments of a question. -/
def arguments : NodeQuery → List Json
  | .chainId => []
  | .isDeployed address => [Json.ofAddress address]
  | .owners account => [Json.ofAddress account]
  | .threshold account => [Json.ofAddress account]
  | .version account => [Json.ofAddress account]
  | .isModuleEnabled account module => [Json.ofAddress account, Json.ofAddress module]
  | .fallbackHandler account => [Json.ofAddress account]
  | .nonce entryPoint sender key =>
    [Json.ofAddress entryPoint, Json.ofAddress sender, Json.ofQuantity key]
  | .creationCode factory => [Json.ofAddress factory]
  | .gasPrice => []
  | .maxPriorityFee => []

/-- Writes a question. -/
def toJson (q : NodeQuery) : Json :=
  .arr [.str q.kind, .arr q.arguments]

/-- Reads a question of a kind from an object with its arguments. -/
def ofJson? (kind : String) (j : Json) : Option NodeQuery := do
  let account : Option Address := Json.field j "safe" Json.toAddress
  match kind with
  | "chain_id" => return .chainId
  | "is_deployed" => return .isDeployed (← Json.field j "address" Json.toAddress)
  | "owners" => return .owners (← account)
  | "threshold" => return .threshold (← account)
  | "version" => return .version (← account)
  | "is_module_enabled" =>
    return .isModuleEnabled (← account) (← Json.field j "module" Json.toAddress)
  | "fallback_handler" => return .fallbackHandler (← account)
  | "get_nonce" =>
    return .nonce (← Json.field j "entry_point" Json.toAddress)
      (← Json.field j "sender" Json.toAddress) (← Json.field j "key" (Json.toQuantity 192))
  | "proxy_creation_code" => return .creationCode (← Json.field j "factory" Json.toAddress)
  | "gas_price" => return .gasPrice
  | "max_priority_fee_per_gas" => return .maxPriorityFee
  | _ => none

/-- Writes the answer to a question. -/
def answerToJson : (question : NodeQuery) → question.Answer → Json
  | .chainId, n => Json.ofDecimal n
  | .isDeployed _, b => .bool b
  | .owners _, found => .arr (found.map Json.ofAddress)
  | .threshold _, n => Json.ofDecimal n
  | .version _, text => .str text
  | .isModuleEnabled _ _, b => .bool b
  | .fallbackHandler _, a => Json.ofAddress a
  | .nonce _ _ _, x => Json.ofQuantity x
  | .creationCode _, code => Json.ofBytes code
  | .gasPrice, x => Json.ofQuantity x
  | .maxPriorityFee, x => Json.ofQuantity x

end SafeOps.NodeQuery
