import SafeOps.Crypto.Keccak
import SafeOps.Hex
import SafeOps.Quantity

/-!
# `SafeOps.Address`: accounts

An address is a number of 160 bits. On the wire it is written in lowercase; people
read it in checksummed form, where a letter is a capital when the digit of the same
place in the hash of the lowercase digits is at least 8. Readers take any case.

Addresses are ordered by their bits, which is the order of their bytes and of their
lowercase texts.
-/

set_option autoImplicit false

namespace SafeOps

/-- An account address. -/
structure Address where
  /-- The 20 bytes as one number, most significant first. -/
  bits : BitVec 160
  deriving DecidableEq, Repr

namespace Address

/-- The address that stands for nobody. -/
def zero : Address := ⟨0⟩

/-- The 20 bytes of an address. -/
def toBytes (a : Address) : Bytes :=
  Bytes.ofBits 20 a.bits

/-- The address with the given bytes; of more than 20 the last ones count. -/
def ofBytes (bs : Bytes) : Address :=
  ⟨Bytes.toBits 160 bs⟩

/-- The address in the low bits of a word. -/
def ofWord (w : Word) : Address :=
  ⟨w.setWidth 160⟩

/-- The word whose low bits are the address. -/
def toWord (a : Address) : Word :=
  a.bits.setWidth 256

/-- The text of an address on the wire. -/
def text (a : Address) : String :=
  Hex.render a.toBytes

/-- The text of an address in messages, with the checksum in the case of its letters. -/
def checksummed (a : Address) : String :=
  let digits := Hex.encode a.toBytes
  let marks := Hex.encode (keccak256 (digits.map fun c => UInt8.ofNat c.toNat)).toBytes
  let capitalize (c mark : Char) : Char := if '8' ≤ mark then c.toUpper else c
  "0x" ++ String.ofList (List.zipWith capitalize digits marks)

/-- Whether `a` comes before `b`. -/
def before (a b : Address) : Bool :=
  decide (a.bits < b.bits)

@[simp] theorem length_toBytes (a : Address) : a.toBytes.length = 20 :=
  Bytes.length_ofBits 20 a.bits

theorem toNat_toBytes (a : Address) : Bytes.toNat a.toBytes = a.bits.toNat :=
  Bytes.toNat_ofNat (show a.bits.toNat < limit (8 * 20) from a.bits.isLt)

/-- An address is what its bytes spell. -/
@[simp] theorem ofBytes_toBytes (a : Address) : ofBytes a.toBytes = a := by
  show Address.mk (BitVec.ofNat 160 (Bytes.toNat a.toBytes)) = a
  rw [toNat_toBytes, BitVec.ofNat_toNat, BitVec.setWidth_eq]

theorem ofWord_toWord (a : Address) : ofWord a.toWord = a := by
  cases a
  simp [ofWord, toWord]

end Address

end SafeOps
