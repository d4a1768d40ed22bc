import SafeOps.Program

/-!
# `SafeOps.Rpc.Client`: requests as programs

`Rpc.ask` tells the host which method it calls where, sends the request, and tells the host
again if the service refused or answered with something else than success. A connection
that fails is not worth a message of its own, and only the host of a service is ever named.
-/

set_option autoImplicit false

namespace SafeOps.Rpc

/-- What the host is warned of after a reply. -/
def warning (host method : String) : Reply → Option String
  | .broken _ => none
  | .answer status body =>
    if isSuccess status then
      match resultOf body with
      | .ok _ => none
      | .error e =>
        some ("rpc.error method=" ++ method ++ " host=" ++ host ++ " error=" ++ e.message)
    else
      some ("rpc.http_error method=" ++ method ++ " host=" ++ host ++ " status="
        ++ statusText status)

/-- Calls a method of a service and reads its result. -/
def ask {α : Type} (service : Endpoint) (method : String) (params : Json)
    (read : Json → Option α) : Attempt RpcError α := do
  Attempt.tell .debug ("rpc.request method=" ++ method ++ " host=" ++ service.host)
  let reply ← Attempt.always (Program.query (.post service ⟨method, params⟩))
  -- A result of the wrong kind is an error of this library, not of the service.
  if let some text := warning service.host method reply then Attempt.tell .warn text
  Attempt.ofExcept (interpret method read reply)

/-- Accepts the URL of a service. -/
def connect (url : String) : Except RpcError Endpoint :=
  (Endpoint.read url).mapError .endpoint

end SafeOps.Rpc
