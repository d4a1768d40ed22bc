import SafeOps.Json.Field
import SafeOps.Log.Codec
import SafeOps.Rehearsal.Stage

/-!
# `SafeOps.Rehearsal.Codec`: stages as JSON

What a stage holds is read from settings, in which everything has a default but the rules
of a script and the keys of owners.
-/

set_option autoImplicit false

namespace SafeOps.Rehearsal

/-- Reads what a chain holds. -/
def Chain.ofJson? (j : Json) : Option Chain := do
  return {
    chainId := ← Json.fieldD j "chain_id" (Json.toQuantity 64) 11155111
    deployed := ← Json.fieldD j "deployed" Json.toFlag false
    owners := ← Json.fields j "owners" Json.toAddress
    threshold := ← Json.fieldD j "threshold" (Json.toQuantity 64) 1
    version := ← Json.fieldD j "version" Json.toText "1.4.1"
    moduleEnabled := ← Json.fieldD j "module_enabled" Json.toFlag true
    fallbackHandler := ← Json.fieldD j "fallback_handler" Json.toAddress .zero
    nonce := ← Json.fieldD j "nonce" (Json.toQuantity 256) 0
    creationCode := ← Json.bytesField j "creation_code"
    gasPrice := ← Json.fieldD j "gas_price" (Json.toQuantity 256) 2000000000
    maxPriorityFee := ← Json.fieldD j "max_priority_fee_per_gas" (Json.toQuantity 256) 1000000000
    refusals := ← Json.fieldD j "fail" (Json.toEntries Json.toText) [] }

/-- Reads how a rule replies. -/
def replyOfJson? (j : Json) : Option Rpc.Transmission := do
  let status := (← Json.fieldD j "status" (Json.toQuantity 64) 200).toNat
  match ← Json.field? j "broken" Json.toText with
  | some "cut_body" => return cutReply status
  | some _ => return noReply
  | none =>
    match ← Json.field? j "body" Json.toText, ← Json.field? j "body_hex" Json.toBytes,
      j.member? "error" with
    | some body, _, _ => return .whole status (Bytes.ofText body)
    | none, some body, _ => return .whole status body
    | none, none, some error => return .whole status (refusalBody error)
    | none, none, none => return .whole status (resultBody ((j.member? "result").getD .null))

/-- Reads a rule. -/
def Rule.ofJson? (j : Json) : Option Rule := do
  return {
    method := ← Json.field j "method" Json.toText
    target := ← Json.field? j "to" Json.toText
    selector := ← Json.field? j "selector" Json.toText
    left := (← Json.field? j "times" (Json.toQuantity 64)).map BitVec.toNat
    reply := ← replyOfJson? j }

/-- Reads a method of keys. -/
def methodOfJson? (j : Json) : Option SigningMethod := do
  let name ← Json.toText j
  SigningMethod.all.find? fun m => m.name = name

/-- Reads how a key behaves. -/
def KeyHolder.ofJson? (key : LocalKey) (j : Json) : Option KeyHolder := do
  let failures ← Json.fieldD j "fail" (Json.toEntries Json.toText) []
  return {
    key
    supported := ← Json.field? j "supports" (Json.toListOf methodOfJson?)
    failures := ← failures.mapM fun (name, reason) => return (← methodOfJson? (.str name), reason) }

/-- Reads what a passkey answers. -/
def PasskeyHolder.ofJson? (j : Json) : Option PasskeyHolder := do
  return {
    credential := {
      id := ← Json.bytesField j "raw_id"
      x := ← Json.field j "x" (Json.toQuantity 256)
      y := ← Json.field j "y" (Json.toQuantity 256)
      verifiers := ← Json.field j "verifiers" (Json.toQuantity 176) }
    assertion := {
      authenticatorData := ← Json.bytesField j "authenticator_data"
      clientData := ← Json.fieldD j "client_data_json" Json.toText ""
      r := ← Json.fieldD j "r" (Json.toQuantity 256) 0
      s := ← Json.fieldD j "s" (Json.toQuantity 256) 0 }
    failure := ← Json.field? j "fail" Json.toText }

/-- Writes what a signer was asked. -/
def Asked.toJson : Asked → Json
  | .method m => .str m.name
  | .challenge h => Json.ofHash h

/-- Writes a request as it arrived, without its number. -/
def requestToJson (r : Rpc.Request) : Json :=
  .obj [("jsonrpc", .str "2.0"), ("method", .str r.method), ("params", r.params)]

namespace Journal

/-- Writes the requests that arrived. -/
def requestsToJson (journal : Journal) : Json :=
  .arr (journal.requests.map requestToJson)

/-- Writes what the chain was asked. -/
def questionsToJson (journal : Journal) : Json :=
  .arr (journal.questions.map NodeQuery.toJson)

/-- Writes what the owner was asked. -/
def askedToJson (journal : Journal) : Json :=
  .arr (journal.asked.map Asked.toJson)

/-- Writes what the host was told. -/
def messagesToJson (journal : Journal) : Json :=
  Log.Message.listToJson journal.messages

end Journal

end SafeOps.Rehearsal
