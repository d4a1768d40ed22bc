import SafeOps.Endpoint
import SafeOps.Json.Codec
import SafeOps.Json.Outline

/-!
# `SafeOps.Rpc`: asking services

A service is asked by the name of a method and its parameters. What comes back is the
status of the connection and a body, or a failure of the connection, which knows its URL and
must not tell it (`Reply.ofTransmission`). `resultOf` tells the result from the body: a
body must be a record with an `error` or a `result`, and an error that is not `null` counts
before any result. Only these two are read, and of an error its code and its message; what
else a service has to say is passed over. `interpret` puts status, body and the reading of
the result together.
-/

set_option autoImplicit false

namespace SafeOps

namespace Rpc

/-- A question to a service. -/
structure Request where
  method : String
  params : Json
  deriving Repr

/-- The request as JSON, under a number that tells it from others. -/
def Request.toJson (r : Request) (id : Nat) : Json :=
  .obj [("jsonrpc", .str "2.0"), ("id", .int id), ("method", .str r.method), ("params", r.params)]

/-- What the connection brought. -/
inductive Reply where
  /-- The connection failed. -/
  | broken (reason : String)
  /-- An answer with its status. -/
  | answer (status : Nat) (body : Bytes)
  deriving DecidableEq, Repr

/-- A failure of the connection, with the URL it happened at. -/
structure TransportError where
  reason : String
  url : Option String
  deriving DecidableEq, Repr

namespace TransportError

/-- The failure in words, which name the URL. -/
def text (e : TransportError) : String :=
  match e.url with
  | some url => e.reason ++ " for url (" ++ url ++ ")"
  | none => e.reason

/-- The failure without the URL. -/
def withoutUrl (e : TransportError) : TransportError :=
  { e with url := none }

end TransportError

/-- What became of a request. -/
inductive Transmission where
  /-- There was no answer. -/
  | unsent (e : TransportError)
  /-- The answer broke off after its status. -/
  | cut (status : Nat) (e : TransportError)
  | whole (status : Nat) (body : Bytes)
  deriving DecidableEq, Repr

/-- What the connection brought. A URL may hold a secret, so no failure keeps it. -/
def Reply.ofTransmission : Transmission → Reply
  | .unsent e => .broken e.withoutUrl.text
  | .cut _ e => .broken e.withoutUrl.text
  | .whole status body => .answer status body

/-- The number of a request: a number, or a text. -/
inductive Id where
  | number (n : BitVec 64)
  | text (s : String)
  deriving DecidableEq, Repr

/-- Reads the number of a request. -/
def Id.ofJson? : Json → Option Id
  | .int n => if 0 ≤ n ∧ n < limit 64 then some (.number (BitVec.ofInt 64 n)) else none
  | .str s => some (.text s)
  | _ => none

/-- Writes the number of a request. -/
def Id.toJson : Id → Json
  | .number n => .int n.toNat
  | .text s => .str s

/-- What is wrong with an answer that is JSON. -/
inductive ResultFault where
  /-- There is neither a result nor an error. -/
  | missing
  /-- The result is not what the method should give. -/
  | unexpected (method : String)
  /-- A paymaster names no price for a token. -/
  | noQuote (token : Address)
  deriving DecidableEq, Repr

/-- The fault in words. -/
def ResultFault.message : ResultFault → String
  | .missing => "response carries neither a result nor an error"
  | .unexpected method => "unexpected result for " ++ method
  | .noQuote token => "no quote for token " ++ token.checksummed

end Rpc

/-- Why a service could not be asked. -/
inductive RpcError where
  /-- The connection failed. -/
  | broken (reason : String)
  /-- The status of the answer is none of success. -/
  | status (status : Nat) (body : String)
  /-- The body is not the JSON it should be. -/
  | json
  /-- The service refused. -/
  | refused (code : Int) (message : String)
  | result (fault : Rpc.ResultFault)
  | endpoint (fault : EndpointFault)
  /-- Any other failure, in words. -/
  | other (message : String)
  deriving DecidableEq, Repr

namespace Rpc

/-- The names of statuses. -/
def reasons : List (Nat × String) :=
  [(100, "Continue"), (101, "Switching Protocols"), (102, "Processing"), (200, "OK"),
   (201, "Created"), (202, "Accepted"), (203, "Non Authoritative Information"),
   (204, "No Content"), (205, "Reset Content"), (206, "Partial Content"), (207, "Multi-Status"),
   (208, "Already Reported"), (226, "IM Used"), (300, "Multiple Choices"),
   (301, "Moved Permanently"), (302, "Found"), (303, "See Other"), (304, "Not Modified"),
   (305, "Use Proxy"), (307, "Temporary Redirect"), (308, "Permanent Redirect"),
   (400, "Bad Request"), (401, "Unauthorized"), (402, "Payment Required"), (403, "Forbidden"),
   (404, "Not Found"), (405, "Method Not Allowed"), (406, "Not Acceptable"),
   (407, "Proxy Authentication Required"), (408, "Request Timeout"), (409, "Conflict"),
   (410, "Gone"), (411, "Length Required"), (412, "Precondition Failed"),
   (413, "Payload Too Large"), (414, "URI Too Long"), (415, "Unsupported Media Type"),
   (416, "Range Not Satisfiable"), (417, "Expectation Failed"), (418, "I'm a teapot"),
   (421, "Misdirected Request"), (422, "Unprocessable Entity"), (423, "Locked"),
   (424, "Failed Dependency"), (425, "Too Early"), (426, "Upgrade Required"),
   (428, "Precondition Required"), (429, "Too Many Requests"),
   (431, "Request Header Fields Too Large"), (451, "Unavailable For Legal Reasons"),
   (500, "Internal Server Error"), (501, "Not Implemented"), (502, "Bad Gateway"),
   (503, "Service Unavailable"), (504, "Gateway Timeout"), (505, "HTTP Version Not Supported"),
   (506, "Variant Also Negotiates"), (507, "Insufficient Storage"), (508, "Loop Detected"),
   (510, "Not Extended"), (511, "Network Authentication Required")]

/-- A status with its name. -/
def statusText (status : Nat) : String :=
  toString status ++ " " ++ (reasons.lookup status).getD "<unknown status code>"

/-- Whether a status means success. -/
def isSuccess (status : Nat) : Bool :=
  200 ≤ status && status < 300

end Rpc

/-- The error in words. -/
def RpcError.message : RpcError → String
  | .broken reason => "HTTP request failed: " ++ reason
  | .status code body => "HTTP request failed: HTTP " ++ Rpc.statusText code ++ ": " ++ body
  | .json => "JSON parsing error"
  | .refused code message => "RPC error " ++ toString code ++ ": " ++ message
  | .result fault => "Invalid response format: " ++ fault.message
  | .endpoint fault => "Invalid RPC URL: " ++ fault.message
  | .other message => message

namespace Rpc

/-- Reads a code, an integer of 64 bits with a sign. -/
def toCode : Json → Option Int
  | .int n => if -limit 63 ≤ n ∧ n < limit 63 then some n else none
  | _ => none

/-- Reads what a service says about its refusal. -/
def readRefusal (text : Bytes) : Option (Int × String) := do
  let members ← Json.readRecord ["code", "message"] text
  -- A number and a text hold nothing else.
  let code ← Json.readBytes 0 (← members.lookup "code")
  let message ← Json.readBytes 0 (← members.lookup "message")
  return (← toCode code, ← Json.toText message)

/-- The refusal among the members of a body; an error that is `null` is none. -/
def refusalIn (members : List (String × Bytes)) : Option (Option (Int × String)) :=
  match members.lookup "error" with
  | none => some none
  | some text => if text = Json.nullText then some none else (readRefusal text).map some

/-- The result among the members of a body, `null` if it is that. -/
def resultIn (members : List (String × Bytes)) : Option (Option Json) :=
  match members.lookup "result" with
  | none => some none
  -- The body is itself a container around its result.
  | some text => (Json.readBytes (Json.maxDepth - 1) text).map some

/-- The result in a body. -/
def resultOf (body : Bytes) : Except RpcError Json :=
  let parts? : Option (Option (Int × String) × Option Json) := do
    let members ← Json.readRecord ["error", "result"] body
    return (← refusalIn members, ← resultIn members)
  match parts? with
  | none => .error .json
  -- A refusal counts before any result.
  | some (some (code, message), _) => .error (.refused code message)
  | some (none, some result) => .ok result
  | some (none, none) => .error (.result .missing)

/-- What a reply means for a method whose results `read` understands. -/
def interpret {α : Type} (method : String) (read : Json → Option α) : Reply → Except RpcError α
  | .broken reason => .error (.broken reason)
  | .answer status body =>
    if isSuccess status then
      match resultOf body with
      | .error e => .error e
      | .ok result =>
        match read result with
        | some value => .ok value
        | none => .error (.result (.unexpected method))
    else .error (.status status (Text.Utf8.decodeLossy body))

end Rpc

end SafeOps
