import SafeOps.Bytes

/-!
# `SafeOps.Crypto.Keccak`: the hash of accounts and operations

Keccak with 256 bits of output, as the chain uses it: the sponge over the
permutation of 25 lanes of 64 bits, a rate of 136 bytes, and the padding that
starts with `0x01` and ends with `0x80` (both in one byte when only one is free).

Lane `(x, y)` of the state stands at index `x + 5 * y`. One round is the
composition of the five steps of the standard; `permute` runs 24 of them.

* `length_keccak256Bytes`: the output has 32 bytes.
-/

set_option autoImplicit false

namespace SafeOps

namespace Keccak

/-- The 25 lanes of the permutation. -/
abbrev State := Vector UInt64 25

/-- Rotation of a lane to the left. -/
def rotl (x : UInt64) (n : Nat) : UInt64 :=
  (x <<< UInt64.ofNat n) ||| (x >>> UInt64.ofNat (64 - n))

/-- The lane at `(x, y)`, both coordinates taken modulo 5. -/
def lane (s : State) (x y : Nat) : UInt64 :=
  s.get ⟨x % 5 + 5 * (y % 5), by omega⟩

/-- The state whose lane at `(x, y)` is `f x y`. -/
def tabulate (f : Nat → Nat → UInt64) : State :=
  Vector.ofFn fun i => f (i.val % 5) (i.val / 5)

/-- Adds to every lane the parities of two neighbouring columns. -/
def theta (s : State) : State :=
  let parity : Vector UInt64 5 := Vector.ofFn fun x =>
    lane s x.val 0 ^^^ lane s x.val 1 ^^^ lane s x.val 2 ^^^ lane s x.val 3 ^^^ lane s x.val 4
  -- One step to the left is four to the right.
  let column (x : Nat) : UInt64 := parity.get ⟨x % 5, by omega⟩
  tabulate fun x y => lane s x y ^^^ column (x + 4) ^^^ rotl (column (x + 1)) 1

/-- How far each lane is rotated, by its index. -/
def offsets : Vector Nat 25 :=
  #v[0, 1, 62, 28, 27, 36, 44, 6, 55, 20, 3, 10, 43, 25, 39, 41, 45, 15, 21, 8, 18, 2, 61, 56, 14]

/-- Rotates every lane by its own offset. -/
def rho (s : State) : State :=
  Vector.ofFn fun i => rotl s[i] offsets[i]

/-- Moves the lane at `(x + 3 * y, x)` to `(x, y)`. -/
def pi (s : State) : State :=
  tabulate fun x y => lane s (x + 3 * y) x

/-- Combines each lane with the next two of its row. -/
def chi (s : State) : State :=
  tabulate fun x y => lane s x y ^^^ (~~~(lane s (x + 1) y) &&& lane s (x + 2) y)

/-- The constants added to the first lane, one per round. -/
def roundConstants : List UInt64 :=
  [0x0000000000000001, 0x0000000000008082, 0x800000000000808A, 0x8000000080008000,
   0x000000000000808B, 0x0000000080000001, 0x8000000080008081, 0x8000000000008009,
   0x000000000000008A, 0x0000000000000088, 0x0000000080008009, 0x000000008000000A,
   0x000000008000808B, 0x800000000000008B, 0x8000000000008089, 0x8000000000008003,
   0x8000000000008002, 0x8000000000000080, 0x000000000000800A, 0x800000008000000A,
   0x8000000080008081, 0x8000000000008080, 0x0000000080000001, 0x8000000080008008]

/-- One round with its constant. -/
def round (s : State) (constant : UInt64) : State :=
  let t := chi (pi (rho (theta s)))
  t.set 0 (t[0] ^^^ constant)

/-- The permutation. -/
def permute (s : State) : State :=
  roundConstants.foldl round s

/-- Bytes absorbed per permutation. -/
def rate : Nat := 136

/-- Bytes that fill a message up to a multiple of the rate; always at least one. -/
def padding (length : Nat) : Bytes :=
  let free := rate - length % rate
  if free = 1 then [0x81] else 0x01 :: (Bytes.zeros (free - 2) ++ [0x80])

/-- The number spelled by bytes, least significant first, as a lane. -/
def laneOf (bs : Bytes) : UInt64 :=
  bs.foldr (fun b acc => (acc <<< 8) ||| b.toUInt64) 0

/-- Adds a block of at most 136 bytes to the first lanes of the state. -/
def addBlock (s : State) (block : Bytes) : State :=
  Vector.ofFn fun i =>
    -- The rate is seventeen lanes; the others stay hidden from the message.
    if i.val < 17 then s[i] ^^^ laneOf ((block.drop (8 * i.val)).take 8) else s[i]

/-- Absorbs a padded message block by block. -/
def absorb (s : State) (message : Bytes) : State :=
  if message.isEmpty then s
  else absorb (permute (addBlock s (message.take rate))) (message.drop rate)
termination_by message.length
decreasing_by
  have hpos : 0 < message.length := by
    cases message with
    | nil => contradiction
    | cons => simp
  simp only [List.length_drop, rate]
  omega

/-- The bytes of a lane, least significant first. -/
def laneBytes (x : UInt64) : Bytes :=
  (List.range 8).map fun i => (x >>> UInt64.ofNat (8 * i)).toUInt8

/-- The first 32 bytes of the state. -/
def squeeze (s : State) : Bytes :=
  laneBytes s[0] ++ laneBytes s[1] ++ laneBytes s[2] ++ laneBytes s[3]

/-- The 32 output bytes of a message. -/
def keccak256Bytes (message : Bytes) : Bytes :=
  squeeze (absorb (Vector.replicate 25 0) (message ++ padding message.length))

@[simp] theorem length_keccak256Bytes (message : Bytes) : (keccak256Bytes message).length = 32 := by
  simp [keccak256Bytes, squeeze, laneBytes]

end Keccak

/-- A 32-byte hash. -/
structure Hash where
  /-- The bytes as one number, most significant first. -/
  bits : BitVec 256
  deriving DecidableEq, Repr

namespace Hash

/-- The 32 bytes of a hash. -/
def toBytes (h : Hash) : Bytes :=
  Bytes.ofBits 32 h.bits

/-- The hash with the given bytes. -/
def ofBytes (bs : Bytes) : Hash :=
  ⟨Bytes.toBits 256 bs⟩

@[simp] theorem length_toBytes (h : Hash) : h.toBytes.length = 32 :=
  Bytes.length_ofBits 32 h.bits

end Hash

/-- The Keccak hash of a byte string. -/
def keccak256 (message : Bytes) : Hash :=
  Hash.ofBytes (Keccak.keccak256Bytes message)

end SafeOps
