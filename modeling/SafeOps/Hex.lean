import SafeOps.Bytes
import SafeOps.Text.Quoted

/-!
# `SafeOps.Hex`: byte strings as hexadecimal text

`Hex.encode` writes two lowercase digits per byte and `Hex.render` puts `0x` in
front. `Hex.decode` reads digits of either case back.

Texts from outside pass through `Hex.read`, which works on the UTF-8 bytes of
the text and reports the first of three faults: an odd number of bytes (the
leading `0x` counted), a length other than the wanted one, or the first byte that
is no digit, with its place after the leading `0x`.

* `decode_encode`: decoding the encoding gives the bytes back.
-/

set_option autoImplicit false

namespace SafeOps

namespace Hex

/-- The lowercase digit of a number below 16. -/
def digit (n : Nat) : Char :=
  if n < 10 then Char.ofNat (48 + n) else Char.ofNat (87 + n)

/-- The two lowercase digits of a byte. -/
def digits (b : UInt8) : List Char :=
  [digit (b.toNat / 16), digit (b.toNat % 16)]

/-- The lowercase digits of a byte string, without `0x`. -/
def encode (bs : Bytes) : List Char :=
  bs.flatMap digits

/-- The text of a byte string: `0x` and lowercase digits. -/
def render (bs : Bytes) : String :=
  "0x" ++ String.ofList (encode bs)

/-- The value of a digit of either case, given as its character code. -/
def value? (code : Nat) : Option Nat :=
  Text.digit? 16 code

/-- Digits of either case, two to a byte. -/
def decode : List Char → Option Bytes
  | [] => some []
  | [_] => none
  | high :: low :: rest => do
    let h ← value? high.toNat
    let l ← value? low.toNat
    let bs ← decode rest
    return UInt8.ofNat (16 * h + l) :: bs

/-- Why a text is not the byte string it should be. -/
inductive Fault where
  /-- The text has an odd number of bytes. -/
  | oddLength
  /-- The text spells another number of bytes than asked for. -/
  | wrongLength
  /-- The byte at `position`, counted after a leading `0x`, is no digit. -/
  | badDigit (byte : UInt8) (position : Nat)
  deriving DecidableEq, Repr

/-- The fault in words. A bad byte is shown as the character with its code. -/
def Fault.message : Fault → String
  | .oddLength => "odd number of digits"
  | .wrongLength => "invalid string length"
  | .badDigit byte position =>
    "invalid character " ++ Text.quoteChar (Char.ofNat byte.toNat)
      ++ " at position " ++ toString position

/-- The text without one leading `0x` or `0X`. -/
def stripMark : Bytes → Bytes
  | 48 :: 120 :: rest => rest
  | 48 :: 88 :: rest => rest
  | bs => bs

/-- Reads digits two to a byte, the first one standing at `position`. -/
def readDigits (position : Nat) : Bytes → Except Fault Bytes
  | [] => .ok []
  | [_] => .error .oddLength
  | high :: low :: rest =>
    match value? high.toNat, value? low.toNat with
    | none, _ => .error (.badDigit high position)
    | some _, none => .error (.badDigit low (position + 1))
    | some h, some l => do
      let bs ← readDigits (position + 2) rest
      return UInt8.ofNat (16 * h + l) :: bs

/-- Reads the bytes a text spells; with `length?` only texts of that many bytes. -/
def read (length? : Option Nat) (text : String) : Except Fault Bytes :=
  let raw := Bytes.ofText text
  if raw.length % 2 = 1 then .error .oddLength
  else
    -- The mark is part of the odd number above, but not of the length below.
    let digits := stripMark raw
    match length? with
    | some n => if digits.length = 2 * n then readDigits 0 digits else .error .wrongLength
    | none => readDigits 0 digits

/-! ## Decoding the encoding -/

theorem value?_digit {n : Nat} (h : n < 16) : value? (digit n).toNat = some n := by
  have all : ∀ k ∈ List.range 16, value? (digit k).toNat = some k := by decide
  exact all n (List.mem_range.mpr h)

theorem decode_encode (bs : Bytes) : decode (encode bs) = some bs := by
  induction bs with
  | nil => rfl
  | cons b bs ih =>
    have hb := b.toNat_lt
    have high := value?_digit (show b.toNat / 16 < 16 by omega)
    have low := value?_digit (show b.toNat % 16 < 16 by omega)
    have hbyte : UInt8.ofNat (16 * (b.toNat / 16) + b.toNat % 16) = b := by
      rw [Nat.div_add_mod]; exact UInt8.ofNat_toNat
    show decode (digit (b.toNat / 16) :: digit (b.toNat % 16) :: encode bs) = some (b :: bs)
    rw [decode, high, low, ih]
    exact congrArg (fun x => some (x :: bs)) hbyte

end Hex

/-- A byte string kept as the hexadecimal text of it that everybody agrees on:
`0x` followed by lowercase digits. -/
structure HexText where
  /-- The text. -/
  text : String
  deriving DecidableEq, Repr

namespace HexText

/-- The digits of a text after every leading `0x`. -/
def stripMarks : List Char → List Char
  | '0' :: 'x' :: rest => stripMarks rest
  | cs => cs

/-- The text of given bytes. -/
def ofBytes (bs : Bytes) : HexText :=
  ⟨Hex.render bs⟩

/-- Reads digits of either case after any number of leading `0x`, and keeps them in
lowercase. A text that is no byte string is answered by what was left of it. -/
def read (s : String) : Except String HexText :=
  let digits := stripMarks s.toList
  match Hex.decode digits with
  | some _ => .ok ⟨"0x" ++ String.ofList (digits.map Char.toLower)⟩
  | none => .error (String.ofList digits)

/-- The bytes the text spells behind its mark. -/
def bytes (h : HexText) : Bytes :=
  -- No value is kept whose digits cannot be read.
  (Hex.decode (h.text.toList.drop 2)).getD []

end HexText

end SafeOps
