import SafeOps.Address
import SafeOps.Crypto.Sha256

/-!
# `SafeOps.Crypto.Secp256k1`: keys and recoverable signatures

The curve `y² = x³ + 7` over the field of `fieldPrime`, with its base point and the
`order` of that point. Points are kept in Jacobian coordinates while they are being
added up and brought back to plain ones at the end.

`PrivateKey.sign` is deterministic: the secret number comes out of a keyed hash of
the key and of the digest, a candidate outside `1 … order - 1` being replaced by the
next one. The second half of a signature is taken from the lower half of its range,
and `yIsOdd` tells which of the two points with the first half as abscissa was meant.

* `PrivateKey.new`: a key is a number from 1 to `order - 1`.
-/

set_option autoImplicit false

namespace SafeOps

namespace Secp256k1

/-- The characteristic of the field. -/
def fieldPrime : Nat :=
  0xFFFFFFFFFFFFFFFFFFFFFFFFFFFFFFFFFFFFFFFFFFFFFFFFFFFFFFFEFFFFFC2F

/-- The order of the base point. -/
def order : Nat :=
  0xFFFFFFFFFFFFFFFFFFFFFFFFFFFFFFFEBAAEDCE6AF48A03BBFD25E8CD0364141

/-- `base ^ exponent` modulo `modulus`; `fuel` bounds the bits of the exponent. -/
def powMod (modulus : Nat) : Nat → Nat → Nat → Nat
  | 0, _, _ => 1 % modulus
  | fuel + 1, base, exponent =>
    if exponent = 0 then 1 % modulus
    else
      let half := powMod modulus fuel (base * base % modulus) (exponent / 2)
      if exponent % 2 = 1 then base * half % modulus else half

/-- The inverse modulo a prime of at most 256 bits. -/
def inverseMod (modulus x : Nat) : Nat :=
  powMod modulus 256 (x % modulus) (modulus - 2)

/-- Difference modulo the field prime of two reduced numbers. -/
def sub (a b : Nat) : Nat :=
  (a + fieldPrime - b) % fieldPrime

/-- Product modulo the field prime. -/
def mul (a b : Nat) : Nat :=
  a * b % fieldPrime

/-- A point in Jacobian coordinates; it is the point at infinity if `z` is zero. -/
structure Jacobian where
  x : Nat
  y : Nat
  z : Nat

/-- The point at infinity. -/
def infinity : Jacobian := ⟨1, 1, 0⟩

/-- The base point. -/
def base : Jacobian :=
  ⟨0x79BE667EF9DCBBAC55A06295CE870B07029BFCDB2DCE28D959F2815B16F81798,
   0x483ADA7726A3C4655DA4FBFC0E1108A8FD17B448A68554199C47D08FFB10D4B8, 1⟩

/-- Twice a point. -/
def double (p : Jacobian) : Jacobian :=
  let yy := mul p.y p.y
  let s := mul 4 (mul p.x yy)
  let m := mul 3 (mul p.x p.x)
  let x := sub (mul m m) (mul 2 s)
  ⟨x, sub (mul m (sub s x)) (mul 8 (mul yy yy)), mul 2 (mul p.y p.z)⟩

/-- The sum of two points. -/
def add (p q : Jacobian) : Jacobian :=
  if p.z = 0 then q
  else if q.z = 0 then p
  else
    -- Bring both points to a common denominator.
    let pzz := mul p.z p.z
    let qzz := mul q.z q.z
    let u1 := mul p.x qzz
    let u2 := mul q.x pzz
    let s1 := mul p.y (mul q.z qzz)
    let s2 := mul q.y (mul p.z pzz)
    -- Points with the same abscissa are equal or opposite.
    if u1 = u2 then
      if s1 = s2 then double p else infinity
    else
      let h := sub u2 u1
      let r := sub s2 s1
      let hh := mul h h
      let hhh := mul h hh
      let v := mul u1 hh
      let x := sub (sub (mul r r) hhh) (mul 2 v)
      ⟨x, sub (mul r (sub v x)) (mul s1 hhh), mul h (mul p.z q.z)⟩

/-- A multiple of a point; `bits` bounds the length of the factor. -/
def multiply : Nat → Nat → Jacobian → Jacobian
  | 0, _, _ => infinity
  | bits + 1, k, p =>
    let rest := multiply bits (k / 2) (double p)
    if k % 2 = 1 then add p rest else rest

/-- The plain coordinates of a point other than the one at infinity. -/
def affine (p : Jacobian) : Nat × Nat :=
  let inv := inverseMod fieldPrime p.z
  let inv2 := mul inv inv
  (mul p.x inv2, mul p.y (mul inv2 inv))

/-- The plain coordinates of a multiple of the base point. -/
def basePoint (k : Nat) : Nat × Nat :=
  affine (multiply 256 k base)

/-- A signature from which the signer can be recovered. -/
structure Signature where
  /-- The abscissa of the secret point. -/
  r : Word
  /-- The other half. -/
  s : Word
  /-- Whether the ordinate of the secret point is odd. -/
  yIsOdd : Bool
  deriving DecidableEq, Repr

/-- The 65 bytes of a signature: both halves, then 27 or 28. -/
def Signature.toBytes (sig : Signature) : Bytes :=
  Bytes.ofBits 32 sig.r ++ Bytes.ofBits 32 sig.s ++ [if sig.yIsOdd then 28 else 27]

@[simp] theorem Signature.length_toBytes (sig : Signature) : sig.toBytes.length = 65 := by
  simp [toBytes]

/-- A private key. -/
structure PrivateKey where
  /-- The secret factor. -/
  value : Nat
  deriving DecidableEq, Repr

namespace PrivateKey

/-- The key with the given 32 bytes, if they spell a number in range. -/
def new (bs : Bytes) : Option PrivateKey :=
  let k := Bytes.toNat bs
  if 0 < k ∧ k < order then some ⟨k⟩ else none

/-- The account of a key: the end of the hash of its public point. -/
def address (key : PrivateKey) : Address :=
  let (x, y) := basePoint key.value
  Address.ofBytes ((keccak256 (Bytes.ofNat 32 x ++ Bytes.ofNat 32 y)).toBytes.drop 12)

/-- The generator of secret numbers: a key and a chaining value. -/
structure NonceState where
  key : Bytes
  chain : Bytes

/-- The generator seeded by a private key and a digest. -/
def NonceState.seed (key : PrivateKey) (digest : Nat) : NonceState :=
  let material := Bytes.ofNat 32 key.value ++ Bytes.ofNat 32 digest
  let chain0 := List.replicate 32 0x01
  -- Two rounds, told apart by the byte in front of the material.
  let key1 := Sha256.keyed (Bytes.zeros 32) (chain0 ++ 0x00 :: material)
  let chain1 := Sha256.keyed key1 chain0
  let key2 := Sha256.keyed key1 (chain1 ++ 0x01 :: material)
  ⟨key2, Sha256.keyed key2 chain1⟩

/-- The signature with a given secret number, if that number gives one. -/
def signWith (key : PrivateKey) (digest k : Nat) : Option Signature :=
  if k = 0 ∨ order ≤ k then none
  else
    let (x, y) := basePoint k
    let r := x % order
    let s := inverseMod order k * (digest + r * key.value) % order
    if r = 0 ∨ s = 0 then none
    else
      -- The negative of `s` is as good, and stands for the opposite secret point.
      let high := order / 2 < s
      let low := if high then order - s else s
      some ⟨BitVec.ofNat 256 r, BitVec.ofNat 256 low, (y % 2 = 1) != high⟩

/-- The signature with the first candidate that gives one, out of `attempts`. -/
def signFrom (key : PrivateKey) (digest : Nat) : Nat → NonceState → Option Signature
  | 0, _ => none
  | attempts + 1, state =>
    let chain := Sha256.keyed state.key state.chain
    match signWith key digest (Bytes.toNat chain) with
    | some sig => some sig
    | none =>
      -- Move on to the next candidate.
      let key' := Sha256.keyed state.key (chain ++ [0x00])
      signFrom key digest attempts ⟨key', Sha256.keyed key' chain⟩

/-- Signs a digest. A candidate fails with probability below `2 ^ -127`, so one of
sixteen does not. -/
def sign (key : PrivateKey) (digest : Hash) : Option Signature :=
  let z := digest.bits.toNat % order
  signFrom key z 16 (NonceState.seed key z)

end PrivateKey

end Secp256k1

end SafeOps
