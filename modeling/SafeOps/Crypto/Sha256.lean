import SafeOps.Bytes

/-!
# `SafeOps.Crypto.Sha256`: the hash behind deterministic nonces

SHA-256 over byte strings and the keyed hash built on it. Only the choice of the
secret number of a signature uses them.
-/

set_option autoImplicit false

namespace SafeOps

namespace Sha256

/-- The state between two blocks. -/
abbrev State := Vector UInt32 8

/-- The state before the first block. -/
def initial : State :=
  #v[0x6a09e667, 0xbb67ae85, 0x3c6ef372, 0xa54ff53a, 0x510e527f, 0x9b05688c, 0x1f83d9ab, 0x5be0cd19]

/-- The constants of the 64 rounds. -/
def roundConstants : List UInt32 :=
  [0x428a2f98, 0x71374491, 0xb5c0fbcf, 0xe9b5dba5, 0x3956c25b, 0x59f111f1, 0x923f82a4, 0xab1c5ed5,
   0xd807aa98, 0x12835b01, 0x243185be, 0x550c7dc3, 0x72be5d74, 0x80deb1fe, 0x9bdc06a7, 0xc19bf174,
   0xe49b69c1, 0xefbe4786, 0x0fc19dc6, 0x240ca1cc, 0x2de92c6f, 0x4a7484aa, 0x5cb0a9dc, 0x76f988da,
   0x983e5152, 0xa831c66d, 0xb00327c8, 0xbf597fc7, 0xc6e00bf3, 0xd5a79147, 0x06ca6351, 0x14292967,
   0x27b70a85, 0x2e1b2138, 0x4d2c6dfc, 0x53380d13, 0x650a7354, 0x766a0abb, 0x81c2c92e, 0x92722c85,
   0xa2bfe8a1, 0xa81a664b, 0xc24b8b70, 0xc76c51a3, 0xd192e819, 0xd6990624, 0xf40e3585, 0x106aa070,
   0x19a4c116, 0x1e376c08, 0x2748774c, 0x34b0bcb5, 0x391c0cb3, 0x4ed8aa4a, 0x5b9cca4f, 0x682e6ff3,
   0x748f82ee, 0x78a5636f, 0x84c87814, 0x8cc70208, 0x90befffa, 0xa4506ceb, 0xbef9a3f7, 0xc67178f2]

/-- Rotation of a word to the right. -/
def rotr (x : UInt32) (n : Nat) : UInt32 :=
  (x >>> UInt32.ofNat n) ||| (x <<< UInt32.ofNat (32 - n))

/-- The word at a place of a list that holds it. -/
def wordAt (ws : Array UInt32) (i : Nat) : UInt32 :=
  ws[i]?.getD 0

/-- The word spelled by four bytes, most significant first. -/
def wordOf (bs : Bytes) : UInt32 :=
  bs.foldl (fun acc b => (acc <<< 8) ||| b.toUInt32) 0

/-- The sixteen words of a block. -/
def blockWords (block : Bytes) : Array UInt32 :=
  ((List.range 16).map fun i => wordOf ((block.drop (4 * i)).take 4)).toArray

/-- Appends the next word of the message schedule. -/
def extend (ws : Array UInt32) : Array UInt32 :=
  let n := ws.size
  let a := wordAt ws (n - 15)
  let b := wordAt ws (n - 2)
  let s0 := rotr a 7 ^^^ rotr a 18 ^^^ (a >>> (3 : UInt32))
  let s1 := rotr b 17 ^^^ rotr b 19 ^^^ (b >>> (10 : UInt32))
  ws.push (wordAt ws (n - 16) + s0 + wordAt ws (n - 7) + s1)

/-- The 64 words of the message schedule of a block. -/
def schedule (block : Bytes) : Array UInt32 :=
  Nat.repeat extend 48 (blockWords block)

/-- One round with its constant and its word. -/
def round (s : State) (input : UInt32 × UInt32) : State :=
  let a := s[0]
  let e := s[4]
  let s1 := rotr e 6 ^^^ rotr e 11 ^^^ rotr e 25
  let choice := (e &&& s[5]) ^^^ (~~~e &&& s[6])
  let t1 := s[7] + s1 + choice + input.1 + input.2
  let s0 := rotr a 2 ^^^ rotr a 13 ^^^ rotr a 22
  let majority := (a &&& s[1]) ^^^ (a &&& s[2]) ^^^ (s[1] &&& s[2])
  #v[t1 + s0 + majority, a, s[1], s[2], s[3] + t1, e, s[5], s[6]]

/-- The state after a block. -/
def compress (s : State) (block : Bytes) : State :=
  let t := (roundConstants.zip (schedule block).toList).foldl round s
  Vector.zipWith (· + ·) s t

/-- A message with its padding: a set bit, zeros, and its length in bits. -/
def pad (message : Bytes) : Bytes :=
  message ++ 0x80 :: Bytes.zeros ((119 - message.length % 64) % 64)
    ++ Bytes.ofNat 8 (8 * message.length)

/-- Runs the blocks of a padded message. -/
def run (s : State) (message : Bytes) : State :=
  if message.isEmpty then s
  else run (compress s (message.take 64)) (message.drop 64)
termination_by message.length
decreasing_by
  have hpos : 0 < message.length := by
    cases message with
    | nil => contradiction
    | cons => simp
  simp only [List.length_drop]
  omega

/-- The 32 output bytes of a message. -/
def digest (message : Bytes) : Bytes :=
  (run initial (pad message)).toList.flatMap fun w => Bytes.ofNat 4 w.toNat

/-- The keyed hash of a message under a key of at most 64 bytes. -/
def keyed (key message : Bytes) : Bytes :=
  let block := key ++ Bytes.zeros (64 - key.length)
  digest (block.map (· ^^^ 0x5C) ++ digest (block.map (· ^^^ 0x36) ++ message))

end Sha256

end SafeOps
