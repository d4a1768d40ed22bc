import SafeOps.Binary64

/-!
# `SafeOps.Binary64.Shortest`: the fewest digits that read back

All the numbers between the middles to both neighbours of a magnitude are rounded to it, the
middles too if its significand is even. Of these numbers the one with the fewest decimal
digits stands for the magnitude, and of several with so few digits the nearest one.

For a count of digits only two numbers can do: those next to the magnitude on both sides.
-/

set_option autoImplicit false

namespace SafeOps.Binary64

/-- A number in decimal: digits, as the integer they spell, and the power of ten they are
multiplied with. -/
structure Decimal where
  digits : Nat
  exponent : Int
  deriving DecidableEq, Repr

/-- What is rounded to a magnitude: its value and the bounds, all divided by one number. -/
structure Reach where
  low : Nat
  value : Nat
  high : Nat
  den : Nat
  /-- Whether the bounds belong to it. -/
  closed : Bool
  deriving DecidableEq, Repr

/-- What is rounded to a magnitude. Below a power of two the neighbours are nearer. -/
def reach (m : Magnitude) : Reach :=
  let nearer := m.significand = limit (precision - 1) ∧ minExponent < m.exponent
  -- Everything is counted in quarters of a unit.
  let quarter := m.exponent - 2
  let scale := limit quarter.toNat
  { low := (4 * m.significand - if nearer then 1 else 2) * scale
    value := 4 * m.significand * scale
    high := (4 * m.significand + 2) * scale
    den := limit (-quarter).toNat
    closed := m.significand % 2 = 0 }

/-- How many decimal digits a number has. -/
def digitCount (n : Nat) : Nat :=
  (Nat.toDigits 10 n).length

/-- The exponent of the greatest power of ten that is not above a quotient. -/
def orderOf (num den : Nat) : Int :=
  if den ≤ num then (digitCount (num / den) : Int) - 1
  else
    let count := digitCount (den / num)
    if den ≤ num * Nat.pow 10 (count - 1) then 1 - (count : Int) else -(count : Int)

/-- Whether a decimal number is rounded to the magnitude. -/
def Reach.holds (r : Reach) (d : Decimal) : Bool :=
  let x := d.digits * r.den * Nat.pow 10 d.exponent.toNat
  let unit := Nat.pow 10 (-d.exponent).toNat
  if r.closed then r.low * unit ≤ x && x ≤ r.high * unit
  else r.low * unit < x && x < r.high * unit

/-- The number with as many digits as wanted that stands for the magnitude, if one does. -/
def Reach.withDigits? (r : Reach) (count : Nat) : Option Decimal :=
  let exponent := orderOf r.value r.den - count + 1
  let num := r.value * Nat.pow 10 (-exponent).toNat
  let den := r.den * Nat.pow 10 exponent.toNat
  let below : Decimal := ⟨num / den, exponent⟩
  let above : Decimal := ⟨num / den + 1, exponent⟩
  if r.holds below && r.holds above then some ⟨nearest num den, exponent⟩
  else if r.holds below then some below
  else if r.holds above then some above
  else none

/-- The digits that always suffice. -/
def maxDigits : Nat := 17

/-- The number with the fewest digits, `count` or more, that stands for the magnitude. -/
def Reach.shortestFrom (r : Reach) (count : Nat) : Nat → Decimal
  | 0 => ⟨0, 0⟩
  | more + 1 =>
    match r.withDigits? count with
    | some d => d
    | none => r.shortestFrom (count + 1) more

/-- A decimal number without zeros at the end of its digits. -/
def Decimal.trim : Nat → Decimal → Decimal
  | 0, d => d
  | fuel + 1, d => if d.digits % 10 = 0 then trim fuel ⟨d.digits / 10, d.exponent + 1⟩ else d

/-- The shortest number that stands for a magnitude other than zero. -/
def shortest (m : Magnitude) : Decimal :=
  ((reach m).shortestFrom 1 maxDigits).trim maxDigits

end SafeOps.Binary64
