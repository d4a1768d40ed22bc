import SafeOps.Bytes
import SafeOps.Text.Digits

/-!
# `SafeOps.Quantity`: numbers of a fixed width as text

A quantity is a bit vector. It is written as `0x` and its shortest hexadecimal
digits (`Quantity.hex`), or in decimal inside messages (`Quantity.decimal`).

`Quantity.read width` reads a text. A leading `0x`, `0o` or `0b` of either case
picks radix 16, 8 or 2, and ten is the radix otherwise. Underscores are skipped, and
a text without digits is zero. The text is read byte by byte: from the last byte to
the first when the radix is a power of two, from the first to the last in decimal.
The first problem met on the way is the one reported:

* a byte that is no digit of the radix;
* a value beyond the width, noticed in a power of two at the first digit that is
  not zero and stands beyond the last bit, and in decimal whenever nineteen digits
  are complete.
-/

set_option autoImplicit false

namespace SafeOps

/-- A number of 256 bits. -/
abbrev Word := BitVec 256

namespace Quantity

/-- The decimal digits of a quantity. -/
def decimal {width : Nat} (x : BitVec width) : String :=
  toString x.toNat

/-- `0x` and the hexadecimal digits of a quantity without leading zeros. -/
def hex {width : Nat} (x : BitVec width) : String :=
  "0x" ++ Text.hexDigits x.toNat

/-- Why a text is not a quantity. -/
inductive Fault where
  /-- The byte is no digit of the radix. -/
  | badDigit (byte : UInt8)
  /-- The value does not fit the width. -/
  | tooLarge
  deriving DecidableEq, Repr

/-- The fault in words. A bad byte is shown as the character with its code. -/
def Fault.message : Fault → String
  | .badDigit byte => "invalid digit: " ++ (Char.ofNat byte.toNat).toString
  | .tooLarge => "the value is too large to fit the target type"

/-- The underscore, which separates digits and means nothing. -/
def separator : UInt8 := 95

/-- Reads digits of `shift` bits each, lowest first. `value` is what the digits below
`position` spell. A digit is refused when it starts beyond `width`, or when it reaches
beyond the last whole group of 64 bits; what lies in between is refused at the end. -/
def readLow (width shift : Nat) : Bytes → Nat → Nat → Except Fault Nat
  | [], _, value => if value < limit width then .ok value else .error .tooLarge
  | b :: rest, position, value =>
    if b = separator then readLow width shift rest position value
    else
      match Text.digit? (limit shift) b.toNat with
      | none => .error (.badDigit b)
      | some d =>
        if d ≠ 0 ∧ (width ≤ position ∨ limit ((width + 63) / 64 * 64) ≤ d * limit position) then
          .error .tooLarge
        else readLow width shift rest (position + shift) (value + d * limit position)

/-- Reads decimal digits, highest first. `value` is what the complete groups of
nineteen digits spell, `chunk` what the `count` digits after them do. -/
def readHigh (width : Nat) : Bytes → Nat → Nat → Nat → Except Fault Nat
  | [], value, chunk, count =>
    let total := value * Nat.pow 10 count + chunk
    if total < limit width then .ok total else .error .tooLarge
  | b :: rest, value, chunk, count =>
    if b = separator then readHigh width rest value chunk count
    else
      match Text.digit? 10 b.toNat with
      | none => .error (.badDigit b)
      | some d =>
        -- Nineteen digits always fit 64 bits, so values are put together in such groups.
        if count + 1 = 19 then
          let total := value * 10000000000000000000 + (chunk * 10 + d)
          if total < limit width then readHigh width rest total 0 0 else .error .tooLarge
        else readHigh width rest value (chunk * 10 + d) (count + 1)

/-- The number spelled by the bytes of a text, as its leading mark says. -/
def readBytes (width : Nat) : Bytes → Except Fault Nat
  | 48 :: 120 :: rest => readLow width 4 rest.reverse 0 0
  | 48 :: 88 :: rest => readLow width 4 rest.reverse 0 0
  | 48 :: 111 :: rest => readLow width 3 rest.reverse 0 0
  | 48 :: 79 :: rest => readLow width 3 rest.reverse 0 0
  | 48 :: 98 :: rest => readLow width 1 rest.reverse 0 0
  | 48 :: 66 :: rest => readLow width 1 rest.reverse 0 0
  | bs => readHigh width bs 0 0 0

/-- Reads a quantity of `width` bits. -/
def read (width : Nat) (text : String) : Except Fault (BitVec width) :=
  (readBytes width (Bytes.ofText text)).map (BitVec.ofNat width)

end Quantity

end SafeOps
