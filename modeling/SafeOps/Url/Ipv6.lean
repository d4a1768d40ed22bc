import SafeOps.Text.Digits
import SafeOps.Text.Split

/-!
# `SafeOps.Url.Ipv6`: IPv6 addresses in URLs

An address has eight groups of 16 bits, written in hexadecimal with colons in between. A
double colon stands once for at least one group of zeros, and the last two groups may be
written as an IPv4 address. An address is shown with its longest run of zero groups left
out.
-/

set_option autoImplicit false

namespace SafeOps

/-- An IPv6 address. -/
structure Ipv6 where
  groups : List Nat
  deriving DecidableEq, Repr

namespace Ipv6

/-- Whether an address belongs to the machine itself. -/
def isLoopback (a : Ipv6) : Bool :=
  a.groups = [0, 0, 0, 0, 0, 0, 0, 1]

/-! ## Reading -/

/-- A group of one to four digits. -/
def group? (cs : List Char) : Option Nat :=
  if cs.isEmpty ∨ 4 < cs.length then none
  else Text.digits? 16 cs

/-- A byte in decimal, without leading zeros. -/
def byte? (cs : List Char) : Option Nat :=
  match cs with
  | [] => none
  | '0' :: _ :: _ => none
  | _ =>
    if 3 < cs.length then none
    else (Text.digits? 10 cs).filter (· ≤ 255)

/-- Two groups written as an IPv4 address. -/
def embedded? (cs : List Char) : Option (List Nat) := do
  match ← (Text.splitOn '.' cs).mapM byte? with
  | [a, b, c, d] => some [a * 256 + b, c * 256 + d]
  | _ => none

/-- Groups with colons in between. `last` says whether the address ends here, so that an
IPv4 address may stand at the end. -/
def groups? (last : Bool) (cs : List Char) : Option (List Nat) :=
  if cs.isEmpty then some []
  else do
    let pieces := Text.splitOn ':' cs
    let front ← pieces.dropLast.mapM group?
    let piece := pieces.getLast?.getD []
    if last ∧ piece.contains '.' then return front ++ (← embedded? piece)
    else return front ++ [← group? piece]

/-- What stands before and after the first double colon. -/
def splitGap : List Char → Option (List Char × List Char)
  | ':' :: ':' :: rest => some ([], rest)
  | c :: rest => (splitGap rest).map fun (before, after) => (c :: before, after)
  | [] => none

/-- The address a text between brackets stands for. -/
def ofText? (cs : List Char) : Option Ipv6 :=
  match splitGap cs with
  | none => do
    let groups ← groups? true cs
    if groups.length = 8 then some ⟨groups⟩ else none
  | some (before, after) => do
    let front ← groups? false before
    let back ← groups? true after
    let count := front.length + back.length
    -- The gap stands for one group at least.
    if count ≤ 7 then some ⟨front ++ List.replicate (8 - count) 0 ++ back⟩ else none

/-! ## Text -/

/-- The number of zeros at the start of a list. -/
def zeroRun (groups : List Nat) : Nat :=
  (groups.takeWhile (· = 0)).length

/-- The longest run of zeros, as its start and length; of equal ones the first. -/
def longestRun : Nat → List Nat → Nat × Nat
  | _, [] => (0, 0)
  | start, g :: rest =>
    let here := zeroRun (g :: rest)
    let later := longestRun (start + 1) rest
    -- An equal run further on does not replace this one.
    if later.2 ≤ here then (start, here) else later

/-- Groups in hexadecimal with colons in between. -/
def groupsText (groups : List Nat) : String :=
  String.intercalate ":" (groups.map Text.hexDigits)

/-- The text of an address, without brackets. -/
def text (a : Ipv6) : String :=
  let (start, length) := longestRun 0 a.groups
  if length < 2 then groupsText a.groups
  else groupsText (a.groups.take start) ++ "::" ++ groupsText (a.groups.drop (start + length))

end Ipv6

end SafeOps
