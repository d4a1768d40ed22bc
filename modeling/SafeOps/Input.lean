import SafeOps.Address
import SafeOps.Text.Blank

/-!
# `SafeOps.Input`: values given as text by a caller

Callers hand over addresses, quantities and byte strings as texts. Each reader trims
blanks, reads the value and, if that fails, names the field that was being read, so
that an error points at the offending input.

* An address and a hash are exactly 20 and 32 bytes of hexadecimal digits.
* A byte string may be empty.
* A 64-bit number is read as a 256-bit quantity first, so a larger one is told from
  a malformed one.
-/

set_option autoImplicit false

namespace SafeOps

/-- Why a field was refused. -/
inductive InputFault where
  /-- The bytes are not spelled right. -/
  | hex (fault : Hex.Fault)
  /-- The number is not spelled right. -/
  | quantity (fault : Quantity.Fault)
  /-- The number, shown as `text`, needs more than `bits` bits. -/
  | tooWide (text : String) (bits : Nat)
  deriving DecidableEq, Repr

/-- The fault in words. -/
def InputFault.message : InputFault → String
  | .hex fault => fault.message
  | .quantity fault => fault.message
  | .tooWide text bits => text ++ " does not fit in " ++ toString bits ++ " bits"

/-- A value given as text that could not be taken. -/
inductive InputError where
  /-- The digits of a hexadecimal text are no byte string. -/
  | notHex (digits : String)
  /-- The field does not hold the value it should. -/
  | invalid (field : String) (fault : InputFault)
  /-- Any other failure, in words. -/
  | other (message : String)
  deriving DecidableEq, Repr

/-- The error in words. -/
def InputError.message : InputError → String
  | .notHex digits => "invalid hex string: " ++ digits
  | .invalid field fault => "invalid input on " ++ field ++ ": " ++ fault.message
  | .other message => message

namespace HexText

/-- A hexadecimal text read from a caller. -/
def new (s : String) : Except InputError HexText :=
  (read s).mapError .notHex

end HexText

namespace Input

/-- Reads a byte string of the given length, or of any length. -/
def hexBytes (length? : Option Nat) (field text : String) : Except InputError Bytes :=
  (Hex.read length? (Text.trim text)).mapError fun fault => .invalid field (.hex fault)

/-- Reads an address. -/
def address (field text : String) : Except InputError Address :=
  (hexBytes (some 20) field text).map Address.ofBytes

/-- Reads a hash. -/
def hash (field text : String) : Except InputError Hash :=
  (hexBytes (some 32) field text).map Hash.ofBytes

/-- Reads a byte string. -/
def bytes (field text : String) : Except InputError Bytes :=
  hexBytes none field text

/-- Reads a quantity of `width` bits. -/
def quantity (width : Nat) (field text : String) : Except InputError (BitVec width) :=
  (Quantity.read width (Text.trim text)).mapError fun fault => .invalid field (.quantity fault)

/-- Narrows a quantity, or refuses it with the text it shall be shown as. -/
def narrowShownAs {width : Nat} (shown : String) (bits : Nat) (field : String)
    (x : BitVec width) : Except InputError (BitVec bits) :=
  if x.toNat < limit bits then .ok (x.setWidth bits)
  else .error (.invalid field (.tooWide shown bits))

/-- Narrows a quantity; a refused one is shown in decimal. -/
def narrow {width : Nat} (bits : Nat) (field : String) (x : BitVec width) :
    Except InputError (BitVec bits) :=
  narrowShownAs (Quantity.decimal x) bits field x

/-- Reads a number of 64 bits; a larger one is shown as it was given. -/
def number64 (field text : String) : Except InputError (BitVec 64) := do
  let x ← quantity 256 field text
  narrowShownAs text 64 field x

end Input

end SafeOps
