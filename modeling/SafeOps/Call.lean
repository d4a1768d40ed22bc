import SafeOps.Contract
import SafeOps.Input

/-!
# `SafeOps.Call`: what an account shall do

A call names its target, the value sent along, its data and whether the target is
called or its code is run in place of the account's own (a delegate call).

`CallText` is a call as a caller types it, every field a text. `CallText.parse` reads
the target, then the value, then the data, and reports the first that is wrong.
-/

set_option autoImplicit false

namespace SafeOps

/-- How a call is performed. -/
inductive CallMode where
  /-- The target runs its own code. -/
  | call
  /-- The account runs the target's code on its own storage. -/
  | delegateCall
  deriving DecidableEq, Repr

/-- A call an account shall perform. -/
structure Call where
  target : Address
  value : Word
  data : Bytes
  mode : CallMode
  deriving DecidableEq, Repr

/-- Why packed calls could not be read. -/
inductive BatchFault where
  /-- The call around them could not be read. -/
  | abi (fault : Abi.Fault)
  /-- Fewer bytes are left than a header takes. -/
  | truncatedHeader (left : Nat)
  /-- The size of the data does not fit 64 bits. -/
  | sizeTooLarge
  /-- Fewer bytes are left than the header announces. -/
  | missingData (expected found : Nat)
  deriving DecidableEq, Repr

/-- The fault in words. -/
def BatchFault.message : BatchFault → String
  | .abi fault => fault.message
  | .truncatedHeader left => "truncated header (" ++ toString left ++ " bytes left)"
  | .sizeTooLarge => "data length overflows"
  | .missingData expected found =>
    "expected " ++ toString expected ++ " data bytes, found " ++ toString found

/-- Why calls could not be written or read. -/
inductive CallError where
  /-- The data of a call are no hexadecimal text. -/
  | notHex (text : String)
  /-- A field of a call is wrong. -/
  | input (error : InputError)
  /-- A byte that stands for no mode. -/
  | unknownMode (byte : UInt8)
  /-- There is nothing to do. -/
  | noCalls
  /-- Packed calls could not be read. -/
  | malformed (fault : BatchFault)
  /-- Any other failure, in words. -/
  | other (message : String)
  deriving DecidableEq, Repr

/-- The error in words. -/
def CallError.message : CallError → String
  | .notHex text => "invalid hex data: " ++ text
  | .input error => error.message
  | .unknownMode byte => "invalid operation type " ++ toString byte.toNat
  | .noCalls => "at least one transaction is required"
  | .malformed fault => "malformed batch: " ++ fault.message
  | .other message => message

namespace CallMode

/-- The byte a mode is written as. -/
def toByte : CallMode → UInt8
  | .call => 0
  | .delegateCall => 1

/-- The mode a byte stands for. -/
def ofByte (byte : UInt8) : Except CallError CallMode :=
  if byte = 0 then .ok .call
  else if byte = 1 then .ok .delegateCall
  else .error (.unknownMode byte)

theorem ofByte_toByte (m : CallMode) : ofByte m.toByte = .ok m := by
  cases m <;> rfl

end CallMode

namespace Call

/-- A call that runs the target's code in place of the account's. -/
def delegate (target : Address) (data : Bytes) : Call :=
  ⟨target, 0, data, .delegateCall⟩

/-- A call that sends no value. -/
def plain (target : Address) (data : Bytes) : Call :=
  ⟨target, 0, data, .call⟩

end Call

/-- A call as a caller types it. -/
structure CallText where
  target : String
  /-- Nothing but blanks means zero. -/
  value : String
  /-- Nothing but blanks means no data. -/
  data : String
  mode? : Option CallMode

namespace CallText

/-- The value of a call. -/
def parseValue (text : String) : Except CallError Word :=
  if (Text.trim text).isEmpty then .ok 0
  else (Input.quantity 256 "value" text).mapError .input

/-- The data of a call. -/
def parseData (text : String) : Except CallError Bytes :=
  let trimmed := Text.trim text
  if trimmed.isEmpty then .ok []
  else (Hex.read none trimmed).mapError fun _ => .notHex trimmed

/-- The call that was typed. -/
def parse (t : CallText) : Except CallError Call := do
  let target ← (Input.address "to" t.target).mapError .input
  let value ← parseValue t.value
  let data ← parseData t.data
  return ⟨target, value, data, t.mode?.getD .call⟩

end CallText

end SafeOps
