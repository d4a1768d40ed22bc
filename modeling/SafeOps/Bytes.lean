import SafeOps.Width

/-!
# `SafeOps.Bytes`: byte strings and big-endian numbers

A byte string is a list of bytes. Every codec of the library (hex, ABI words,
hash inputs, signature layouts) reads and writes numbers most significant byte
first, so the two directions live here once:

* `Bytes.ofNat len n` writes the low `len` bytes of `n`;
* `Bytes.toNat bs` reads a byte string as a number;
* `Bytes.toNat_ofNat` and `Bytes.ofNat_toNat` say that they undo each other on
  numbers below `limit (8 * len)` and on strings of length `len`.

`Bytes.ofBits` and `Bytes.toBits` are the same pair at a fixed bit width, and
`Bytes.pad32` fills a string with zero bytes up to a whole number of words.
-/

set_option autoImplicit false

namespace SafeOps

/-- A string of bytes. -/
abbrev Bytes := List UInt8

namespace Bytes

/-- The number a byte string spells in base 256, most significant byte first. -/
def toNat (bs : Bytes) : Nat :=
  bs.foldl (fun n b => n * 256 + b.toNat) 0

/-- The low `len` bytes of `n`, most significant byte first. -/
def ofNat : Nat → Nat → Bytes
  | 0, _ => []
  | len + 1, n => ofNat len (n / 256) ++ [UInt8.ofNat n]

/-- The low `len` bytes of a bit vector, most significant byte first. -/
def ofBits {width : Nat} (len : Nat) (x : BitVec width) : Bytes :=
  ofNat len x.toNat

/-- The bit vector a byte string spells, bits beyond `width` dropped. -/
def toBits (width : Nat) (bs : Bytes) : BitVec width :=
  BitVec.ofNat width (toNat bs)

/-- `n` zero bytes. -/
def zeros (n : Nat) : Bytes :=
  List.replicate n 0

/-- The string followed by zero bytes up to a multiple of 32. -/
def pad32 (bs : Bytes) : Bytes :=
  bs ++ zeros ((32 - bs.length % 32) % 32)

/-- The UTF-8 bytes of a text. -/
def ofText (s : String) : Bytes :=
  s.toList.flatMap String.utf8EncodeChar

/-! ## Lengths and inverses -/

@[simp] theorem length_ofNat (len n : Nat) : (ofNat len n).length = len := by
  induction len generalizing n with
  | zero => rfl
  | succ len ih => simp [ofNat, ih]

@[simp] theorem length_ofBits {width : Nat} (len : Nat) (x : BitVec width) :
    (ofBits len x).length = len :=
  length_ofNat len x.toNat

@[simp] theorem length_zeros (n : Nat) : (zeros n).length = n := by
  simp [zeros]

@[simp] theorem toNat_nil : toNat [] = 0 := rfl

/-- Appending a byte shifts the number up by one byte. -/
theorem toNat_concat (bs : Bytes) (b : UInt8) :
    toNat (bs ++ [b]) = toNat bs * 256 + b.toNat := by
  simp [toNat]

/-- One byte more holds 256 times as many numbers. -/
theorem limit_byte (len : Nat) : limit (8 * (len + 1)) = 256 * limit (8 * len) := by
  rw [Nat.mul_add, limit_add, Nat.mul_comm]
  rfl

/-- Reading what was written gives the number modulo the width. -/
theorem toNat_ofNat_mod (len n : Nat) : toNat (ofNat len n) = n % limit (8 * len) := by
  induction len generalizing n with
  | zero => exact (Nat.mod_one n).symm
  | succ len ih =>
    have hbyte : (UInt8.ofNat n).toNat = n % 256 := rfl
    have hlimit : limit (8 * (len + 1)) = 256 * limit (8 * len) := limit_byte len
    rw [ofNat, toNat_concat, ih, hbyte, hlimit, Nat.mod_mul]
    omega

theorem toNat_ofNat {len n : Nat} (h : n < limit (8 * len)) : toNat (ofNat len n) = n := by
  rw [toNat_ofNat_mod, Nat.mod_eq_of_lt h]

/-- Induction over a byte string from its last byte, the way numbers are read. -/
theorem concatInduction {motive : Bytes → Prop} (nil : motive [])
    (concat : ∀ bs b, motive bs → motive (bs ++ [b])) (bs : Bytes) : motive bs := by
  have h : ∀ rs : Bytes, motive rs.reverse := by
    intro rs
    induction rs with
    | nil => exact nil
    | cons r rs ih => rw [List.reverse_cons]; exact concat _ _ ih
  have hbs := h bs.reverse
  rwa [List.reverse_reverse] at hbs

/-- A byte string is the writing of its own number at its own length. -/
theorem ofNat_toNat (bs : Bytes) : ofNat bs.length (toNat bs) = bs := by
  induction bs using concatInduction with
  | nil => rfl
  | concat bs b ih =>
    have hb := b.toNat_lt
    rw [List.length_append, List.length_singleton, ofNat, toNat_concat]
    have hdiv : (toNat bs * 256 + b.toNat) / 256 = toNat bs := by omega
    rw [hdiv, ih]
    have hbyte : UInt8.ofNat (toNat bs * 256 + b.toNat) = b := by
      apply UInt8.toNat_inj.mp
      show (toNat bs * 256 + b.toNat) % 256 = b.toNat
      omega
    rw [hbyte]

/-- A string of `len` bytes spells a number below `limit (8 * len)`. -/
theorem toNat_lt (bs : Bytes) : toNat bs < limit (8 * bs.length) := by
  induction bs using concatInduction with
  | nil => exact limit_pos 0
  | concat bs b ih =>
    have hb := b.toNat_lt
    rw [toNat_concat, List.length_append, List.length_singleton, limit_byte]
    omega

end Bytes

end SafeOps
