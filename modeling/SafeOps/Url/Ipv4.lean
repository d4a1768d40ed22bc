import SafeOps.Bytes
import SafeOps.Text.Digits
import SafeOps.Text.Split

/-!
# `SafeOps.Url.Ipv4`: IPv4 addresses in URLs

A host whose last label is a number is an IPv4 address. Its one to four parts may be
decimal, octal (a leading `0`) or hexadecimal (a leading `0x`), and the last part fills all
bytes that the others leave.
-/

set_option autoImplicit false

namespace SafeOps

/-- An IPv4 address. -/
structure Ipv4 where
  bits : BitVec 32
  deriving DecidableEq, Repr

namespace Ipv4

/-- The four bytes of an address. -/
def toBytes (a : Ipv4) : Bytes :=
  Bytes.ofBits 4 a.bits

/-- The text of an address: its bytes in decimal with points in between. -/
def text (a : Ipv4) : String :=
  String.intercalate "." (a.toBytes.map fun b => toString b.toNat)

/-- Whether an address belongs to the machine itself: its first byte is 127. -/
def isLoopback (a : Ipv4) : Bool :=
  a.bits.extractLsb' 24 8 = 127

/-- The value of one part. -/
def number? : List Char → Option Nat
  | [] => none
  | '0' :: 'x' :: rest => Text.digits? 16 rest
  | '0' :: 'X' :: rest => Text.digits? 16 rest
  | '0' :: c :: rest => Text.digits? 8 (c :: rest)
  | cs => Text.digits? 10 cs

/-- The labels of a host, without an empty one at the end. -/
def labels (host : List Char) : List (List Char) :=
  let parts := Text.splitOn '.' host
  if 1 < parts.length ∧ parts.getLast? = some [] then parts.dropLast else parts

/-- Whether the last label of a host is a number. -/
def endsInNumber (host : List Char) : Bool :=
  match (labels host).getLast? with
  | some last => (!last.isEmpty && last.all Char.isDigit) || (number? last).isSome
  | none => false

/-- The address that parts stand for. -/
def ofParts? (parts : List Nat) : Option Ipv4 :=
  match parts.reverse with
  | [] => none
  | last :: firsts =>
    -- The last part fills the bytes that the others leave.
    let room := 4 - firsts.length
    if 3 < firsts.length ∨ limit (8 * room) ≤ last ∨ firsts.any (255 < ·) then none
    else
      some ⟨BitVec.ofNat 32 (Bytes.toNat (firsts.reverse.map UInt8.ofNat) * limit (8 * room) + last)⟩

/-- The address a host stands for. -/
def ofHost? (host : List Char) : Option Ipv4 := do
  ofParts? (← (labels host).mapM number?)

end Ipv4

end SafeOps
