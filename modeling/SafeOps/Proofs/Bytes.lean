import Mathlib.Tactic.Ring
import SafeOps.Address

/-!
# `SafeOps.Proofs.Bytes`: parts of byte strings, and their order

`Bytes.slice` cuts a part out of a byte string and `Bytes.wordAt` reads the number in 32 bytes
of it, the way a contract reads its input. A part that was written is found where it stands
(`slice_middle`, `wordAt_middle`).

Byte strings of one length are in the order of the numbers they spell (`lt_of_toNat_lt`), and
bits that are written with enough bytes can be told from them (`ofBits_injective`). Bits and
addresses that are read from just enough bytes have these bytes (`ofBits_toBits`,
`Address.toBytes_ofBytes`).
-/

set_option autoImplicit false

namespace SafeOps.Bytes

/-! ### Parts -/

/-- The `len` bytes from `start` on. -/
def slice (bs : Bytes) (start len : Nat) : Bytes :=
  (bs.drop start).take len

/-- The number that the 32 bytes from `start` on spell. -/
def wordAt (bs : Bytes) (start : Nat) : Nat :=
  toNat (bs.slice start 32)

/-- What stands from some place on is a part from there and what follows the part. -/
theorem slice_append_drop (bs : Bytes) (start len : Nat) :
    bs.slice start len ++ bs.drop (start + len) = bs.drop start := by
  rw [slice, ← List.drop_drop, List.take_append_drop]

theorem slice_middle {before middle after : Bytes} {start len : Nat}
    (hstart : before.length = start) (hlen : middle.length = len) :
    (before ++ middle ++ after).slice start len = middle := by
  subst hstart hlen
  simp [slice, List.append_assoc]

/-- A number that was written in 32 bytes is read where they stand. -/
theorem wordAt_middle {before after : Bytes} {start n : Nat} (hstart : before.length = start)
    (hn : n < limit 256) : (before ++ ofNat 32 n ++ after).wordAt start = n := by
  rw [wordAt, slice_middle hstart (length_ofNat 32 n)]
  exact toNat_ofNat (show n < limit (8 * 32) from hn)

theorem slice_slice {bs : Bytes} {start len start' len' : Nat} (h : start' + len' ≤ len) :
    (bs.slice start len).slice start' len' = bs.slice (start + start') len' := by
  have hmin : min len' (len - start') = len' := Nat.min_eq_left (by omega)
  simp only [slice, List.drop_take, List.take_take, List.drop_drop, hmin]

theorem wordAt_slice {bs : Bytes} {start len start' : Nat} (h : start' + 32 ≤ len) :
    (bs.slice start len).wordAt start' = bs.wordAt (start + start') := by
  rw [wordAt, slice_slice h, wordAt]

/-! ### Order -/

/-- The first byte counts as many times as there are strings of the other bytes. -/
theorem toNat_cons (b : UInt8) (bs : Bytes) :
    toNat (b :: bs) = b.toNat * limit (8 * bs.length) + toNat bs := by
  induction bs using concatInduction with
  | nil =>
    show toNat ([] ++ [b]) = b.toNat * 1 + 0
    rw [toNat_concat, toNat_nil]
    omega
  | concat bs c ih =>
    rw [← List.cons_append, toNat_concat, toNat_concat, ih, List.length_append,
      List.length_singleton, limit_byte]
    ring

/-- Of two strings of one length the one that spells the smaller number comes first. -/
theorem lt_of_toNat_lt {as bs : Bytes} (hlen : as.length = bs.length)
    (h : toNat as < toNat bs) : as < bs := by
  induction as generalizing bs with
  | nil =>
    rw [List.eq_nil_of_length_eq_zero hlen.symm] at h
    exact absurd h (Nat.lt_irrefl _)
  | cons a as ih =>
    cases bs with
    | nil => cases hlen
    | cons b bs =>
      have hlen' : as.length = bs.length := Nat.succ.inj hlen
      rw [toNat_cons, toNat_cons, hlen'] at h
      have hbs := toNat_lt bs
      rw [List.cons_lt_cons_iff]
      rcases Nat.lt_trichotomy a.toNat b.toNat with hlt | heq | hgt
      · exact Or.inl hlt
      · rw [heq] at h
        exact Or.inr ⟨UInt8.toNat_inj.mp heq, ih hlen' (by omega)⟩
      · -- A larger first byte outweighs all bytes that follow.
        have hstep : (b.toNat + 1) * limit (8 * bs.length)
            ≤ a.toNat * limit (8 * bs.length) := Nat.mul_le_mul_right _ hgt
        rw [Nat.add_mul, Nat.one_mul] at hstep
        omega

/-! ### Bits -/

theorem toNat_ofBits {width len : Nat} (h : width ≤ 8 * len) (x : BitVec width) :
    toNat (ofBits len x) = x.toNat := by
  have hx : x.toNat < limit (8 * len) := Nat.lt_of_lt_of_le x.isLt (limit_le_limit h)
  exact toNat_ofNat hx

/-- Bits are read back from the bytes they were written with. -/
theorem toBits_ofBits {width len : Nat} (h : width ≤ 8 * len) (x : BitVec width) :
    toBits width (ofBits len x) = x := by
  rw [toBits, toNat_ofBits h, BitVec.ofNat_toNat, BitVec.setWidth_eq]

/-- Bits that stand for the number a string spells are written as that string. -/
theorem ofBits_of_toNat_eq {width len : Nat} {x : BitVec width} {bs : Bytes}
    (hlen : bs.length = len) (h : x.toNat = toNat bs) : ofBits len x = bs := by
  rw [ofBits, h, ← hlen, ofNat_toNat]

theorem ofNat_mod (len n : Nat) : ofNat len (n % limit (8 * len)) = ofNat len n := by
  have hback := ofNat_toNat (ofNat len n)
  rwa [length_ofNat, toNat_ofNat_mod] at hback

/-- The low bytes of the number that a string spells are the last bytes of the string. -/
theorem ofNat_toNat_append (as bs : Bytes) : ofNat bs.length (toNat (as ++ bs)) = bs := by
  induction bs using concatInduction with
  | nil => rfl
  | concat bs b ih =>
    have hhigh : (toNat (as ++ bs) * 256 + b.toNat) / 256 = toNat (as ++ bs) := by
      have hb := b.toNat_lt
      omega
    have hlow : UInt8.ofNat (toNat (as ++ bs) * 256 + b.toNat) = b := by
      rw [← UInt8.toNat_inj, UInt8.toNat_ofNat']
      have hb := b.toNat_lt
      omega
    rw [← List.append_assoc, toNat_concat, List.length_append, List.length_singleton, ofNat,
      hhigh, hlow, ih]

/-- Bits that were read from a longer string are the last bytes of it. -/
theorem ofBits_toBits_append (as bs : Bytes) :
    ofBits bs.length (toBits (8 * bs.length) (as ++ bs)) = bs := by
  rw [ofBits, toBits, BitVec.toNat_ofNat]
  exact (ofNat_mod bs.length _).trans (ofNat_toNat_append as bs)

/-- Bits that were read from just enough bytes are written as these bytes. -/
theorem ofBits_toBits {width len : Nat} {bs : Bytes} (hlen : bs.length = len)
    (hwidth : width = 8 * len) : ofBits len (toBits width bs) = bs := by
  subst hlen hwidth
  exact ofBits_toBits_append [] bs

theorem ofBits_injective {width len : Nat} (h : width ≤ 8 * len) {x y : BitVec width}
    (hbytes : ofBits len x = ofBits len y) : x = y := by
  rw [← toBits_ofBits h x, hbytes, toBits_ofBits h]

end SafeOps.Bytes

namespace SafeOps.Address

/-- An address that is read from twenty bytes has these bytes. -/
theorem toBytes_ofBytes {bs : Bytes} (h : bs.length = 20) : (ofBytes bs).toBytes = bs :=
  Bytes.ofBits_toBits h rfl

/-- A string that is long enough is an address and what follows it. -/
theorem toBytes_take_append_drop {bs : Bytes} (h : 20 ≤ bs.length) :
    (ofBytes (bs.take 20)).toBytes ++ bs.drop 20 = bs := by
  have htake : (bs.take 20).length = 20 := by
    rw [List.length_take]
    omega
  rw [toBytes_ofBytes htake, List.take_append_drop]

end SafeOps.Address
