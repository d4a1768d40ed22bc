import SafeOps.Quantity

/-!
# `SafeOps.NonceLane`: nonces in two dimensions

The entry point counts the operations of a sender separately for every key of 192 bits.
A nonce is the key followed by the 64 bits of the count, so operations in different
lanes never wait for each other.

* `ofNonce_nonce` and `nonce_ofNonce`: lanes and nonces correspond one to one.
-/

set_option autoImplicit false

namespace SafeOps

/-- A place in a lane of nonces. -/
structure NonceLane where
  /-- The lane; zero is the default one. -/
  key : BitVec 192
  /-- The place within the lane. -/
  sequence : BitVec 64
  deriving DecidableEq, Repr

namespace NonceLane

/-- A place in the default lane. -/
def default (sequence : BitVec 64) : NonceLane :=
  ⟨0, sequence⟩

/-- The start of a lane with a key chosen at random. The top bit of the key is set, so
the default lane is never meant. -/
def fresh (random : BitVec 192) : NonceLane :=
  ⟨random ||| BitVec.twoPow 192 191, 0⟩

/-- The nonce of a place: the key above the count. -/
def nonce (l : NonceLane) : Word :=
  l.key ++ l.sequence

/-- The place a nonce stands for. -/
def ofNonce (n : Word) : NonceLane :=
  ⟨n.extractLsb' 64 192, n.setWidth 64⟩

theorem toNat_nonce (l : NonceLane) :
    l.nonce.toNat = limit 64 * l.key.toNat + l.sequence.toNat := by
  -- The count lies below the key, so the two halves add up.
  show l.nonce.toNat = 2 ^ 64 * l.key.toNat + l.sequence.toNat
  rw [nonce, BitVec.toNat_append, Nat.shiftLeft_eq, Nat.mul_comm,
    ← Nat.two_pow_add_eq_or_of_lt l.sequence.isLt]

theorem ofNonce_nonce (l : NonceLane) : ofNonce l.nonce = l := by
  have hkey := l.key.isLt
  have hsequence := l.sequence.isLt
  have h1 : l.nonce.extractLsb' 64 192 = l.key := by
    apply BitVec.eq_of_toNat_eq
    rw [BitVec.extractLsb'_toNat, toNat_nonce, limit_64, Nat.shiftRight_eq_div_pow]
    omega
  have h2 : l.nonce.setWidth 64 = l.sequence := by
    apply BitVec.eq_of_toNat_eq
    rw [BitVec.toNat_setWidth, toNat_nonce, limit_64]
    omega
  rw [ofNonce, h1, h2]

theorem nonce_ofNonce (n : Word) : (ofNonce n).nonce = n := by
  have hn := n.isLt
  apply BitVec.eq_of_toNat_eq
  rw [toNat_nonce, limit_64, ofNonce, BitVec.extractLsb'_toNat, BitVec.toNat_setWidth,
    Nat.shiftRight_eq_div_pow]
  omega

end NonceLane

end SafeOps
