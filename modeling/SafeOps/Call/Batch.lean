import SafeOps.Call.MultiSend

/-!
# `SafeOps.Call.Batch`: one call for any number of calls

A user operation carries a single call of the account's module. `Batch.encode` puts
one call into it as it is. Several calls are packed, and the account runs a batching
contract on its own behalf: the one that refuses delegate calls as long as no call is
one, and the general one otherwise.

`Batch.decode` gives the calls back. Bytes after the call do not matter to it.
-/

set_option autoImplicit false

namespace SafeOps.Call

/-- The contracts that perform several calls. -/
structure Batchers where
  /-- Performs calls and delegate calls. -/
  general : Address
  /-- Performs calls only. -/
  callOnly : Address
  deriving DecidableEq, Repr

namespace Batch

/-- The data that has the account perform one call. -/
def execute (c : Call) : Bytes :=
  Contract.executeUserOp.encode (c.target, c.value, c.data, c.mode.toByte.toBitVec, ())

/-- The one call that stands for several. -/
def combine (batchers : Batchers) (calls : List Call) : Call :=
  let target :=
    -- The narrow contract is preferred: it cannot be made to run code for the account.
    if calls.any fun c => c.mode = .delegateCall then batchers.general else batchers.callOnly
  delegate target (MultiSend.encode calls)

/-- The data that has the account perform calls. -/
def encode (batchers : Batchers) : List Call → Except CallError Bytes
  | [] => .error .noCalls
  | [c] => .ok (execute c)
  | calls => .ok (execute (combine batchers calls))

/-- The calls that data have the account perform. -/
def decode (data : Bytes) : Except CallError (List Call) :=
  match Contract.executeUserOp.decode data with
  | .error fault => .error (.malformed (.abi fault))
  | .ok (target, value, inner, modeBits, _) => do
    let mode ← CallMode.ofByte ⟨modeBits⟩
    -- A plain call of a batching contract is one call like any other.
    if mode = .delegateCall ∧ Contract.multiSend.selector.isPrefixOf inner then
      MultiSend.decode inner
    else
      return [⟨target, value, inner, mode⟩]

end Batch

end SafeOps.Call
