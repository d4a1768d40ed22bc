import SafeOps.Rpc

/-!
# `SafeOps.Rehearsal.Network`: services that follow a script

A network is down, or it follows a script: a list of rules, of which the first that fits
answers a request. A rule may serve a limited number of requests. A request that no rule
fits is told that there is no such method.

* `answer_down`: nothing gets through to a network that is down.
-/

set_option autoImplicit false

namespace SafeOps.Rehearsal

/-- A service closes the connection, or cannot be reached. -/
def noReply : Rpc.Transmission :=
  .unsent ⟨"error sending request", none⟩

/-- The body of a service ends early. -/
def cutReply (status : Nat) : Rpc.Transmission :=
  .cut status ⟨"error decoding response body", none⟩

/-- What became of a request to a service. A failure names the URL. -/
def transmit (service : Endpoint) : Rpc.Transmission → Rpc.Transmission
  | .unsent e => .unsent { e with url := some (service.url.scheme ++ ":" ++ service.url.rest) }
  | .cut status e =>
    .cut status { e with url := some (service.url.scheme ++ ":" ++ service.url.rest) }
  | .whole status body => .whole status body

/-- The body of a reply. -/
def envelope (members : List (String × Json)) : Bytes :=
  Bytes.ofText (Json.obj members).render

/-- The body of a reply with a result. -/
def resultBody (result : Json) : Bytes :=
  envelope [("id", .int 1), ("jsonrpc", .str "2.0"), ("result", result)]

/-- The body of a reply that refuses. -/
def refusalBody (error : Json) : Bytes :=
  envelope [("error", error), ("id", .int 1), ("jsonrpc", .str "2.0")]

/-- The reply to a request that no rule fits. -/
def unknownMethod (method : String) : Rpc.Transmission :=
  .whole 200 (refusalBody
    (.obj [("code", .int (-32601)), ("message", .str ("method " ++ method ++ " not found"))]))

/-- A rule of a script. -/
structure Rule where
  method : String
  /-- The contract that is called, in any case of letters. -/
  target : Option String := none
  /-- The function that is called, in any case of letters. -/
  selector : Option String := none
  /-- How many more requests the rule serves, if not all. -/
  left : Option Nat := none
  reply : Rpc.Transmission
  deriving DecidableEq, Repr

/-- The text of a member of a request's first parameter. -/
def parameterText (r : Rpc.Request) (key : String) : Option String :=
  match r.params with
  | .arr (first :: _) => (first.member? key).bind Json.toText
  | _ => none

/-- Whether texts agree up to the case of letters. -/
def sameLetters (a b : String) : Bool :=
  a.toLower = b.toLower

/-- Whether a text is the wanted one, if one is wanted. -/
def meets (wanted found : Option String) : Bool :=
  match wanted with
  | none => true
  | some text => found.any (sameLetters text)

namespace Rule

/-- Whether a rule fits a request. -/
def fits (rule : Rule) (r : Rpc.Request) : Bool :=
  rule.method = r.method && rule.left ≠ some 0
    && meets rule.target (parameterText r "to")
    && meets rule.selector
      ((parameterText r "data").map fun data => String.ofList (data.toList.take 10))

/-- A rule after it has served a request. -/
def used (rule : Rule) : Rule :=
  { rule with left := rule.left.map (· - 1) }

end Rule

/-- Answers a request from a script. -/
def answerFrom (r : Rpc.Request) : List Rule → Rpc.Transmission × List Rule
  | [] => (unknownMethod r.method, [])
  | rule :: rules =>
    if rule.fits r then (rule.reply, rule.used :: rules)
    else
      let (reply, rules') := answerFrom r rules
      (reply, rule :: rules')

/-- The services that can be reached. -/
inductive Network where
  /-- No service can be reached. -/
  | down
  /-- The service of a host follows a script, and others cannot be reached. -/
  | scripted (host : String) (rules : List Rule)
  deriving DecidableEq, Repr

namespace Network

/-- Sends a request. The last part is whether it arrived. -/
def answer (n : Network) (service : Endpoint) (r : Rpc.Request) : Rpc.Reply × Network × Bool :=
  let (transmission, network, arrived) : Rpc.Transmission × Network × Bool :=
    match n with
    | .down => (noReply, .down, false)
    | .scripted host rules =>
      -- Whatever leaves the host of the script finds nobody.
      if service.host = host then
        let (reply, rules') := answerFrom r rules
        (reply, .scripted host rules', true)
      else (noReply, .scripted host rules, false)
  (.ofTransmission (transmit service transmission), network, arrived)

theorem answer_down (service : Endpoint) (r : Rpc.Request) :
    down.answer service r = (.broken "error sending request", .down, false) := rfl

end Network

end SafeOps.Rehearsal
