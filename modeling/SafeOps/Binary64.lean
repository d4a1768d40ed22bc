import SafeOps.Width

/-!
# `SafeOps.Binary64`: numbers with a fraction

A number that is no integer is kept as a binary fraction of 64 bits: a sign, and a significand
of at most 53 bits times a power of two. Everything else is rounded to the nearest such number,
of two equally near ones to that with an even significand.

`ofDecimal?` takes an integer times a power of ten. The integer and the power are rounded
each, and so is their product or quotient.

* `nearest_of_mul`: an exact quotient is not changed.
-/

set_option autoImplicit false

namespace SafeOps

/-- A number with a fraction: the significand times the power of two with the exponent. -/
structure Binary64 where
  negative : Bool
  significand : Nat
  exponent : Int
  deriving DecidableEq, Repr

namespace Binary64

/-! ## Rounding -/

/-- The integer nearest to a quotient, of two equally near ones the even one. -/
def nearest (num den : Nat) : Nat :=
  let q := num / den
  let double := 2 * (num % den)
  if den < double ∨ (double = den ∧ q % 2 = 1) then q + 1 else q

theorem nearest_of_mul {den : Nat} (q : Nat) (h : 0 < den) : nearest (q * den) den = q := by
  simp [nearest, Nat.mul_div_cancel q h]
  omega

/-- A magnitude: a significand and the exponent of a power of two. -/
structure Magnitude where
  significand : Nat
  exponent : Int
  deriving DecidableEq, Repr

/-- The least exponent there is. -/
def minExponent : Int := -1074

/-- The greatest exponent there is. -/
def maxExponent : Int := 971

/-- The bits of a significand. -/
def precision : Nat := 53

/-- The quotient in units of the power of two with an exponent, as a quotient again. -/
def inUnits (num den : Nat) (exponent : Int) : Nat × Nat :=
  (num * limit (-exponent).toNat, den * limit exponent.toNat)

/-- The least exponent for which the integer part of a quotient has no more than 53 bits. -/
def exponentFor (num den : Nat) : Int :=
  let guess : Int := (Nat.log2 num : Int) - Nat.log2 den - precision
  let (n, d) := inUnits num den guess
  -- The guess is right or too small by one.
  max minExponent (if n / d < limit precision then guess else guess + 1)

/-- The magnitude nearest to a quotient; nothing if it is too large. -/
def round? (num den : Nat) : Option Magnitude :=
  let exponent := exponentFor num den
  let (n, d) := inUnits num den exponent
  let significand := nearest n d
  -- Rounding can make the significand a bit longer.
  let rounded : Magnitude :=
    if significand = limit precision then ⟨limit (precision - 1), exponent + 1⟩
    else ⟨significand, exponent⟩
  if maxExponent < rounded.exponent then none else some rounded

/-- The magnitude nearest to a quotient times the power of two with an exponent. -/
def roundShifted? (num den : Nat) (exponent : Int) : Option Magnitude :=
  round? (num * limit exponent.toNat) (den * limit (-exponent).toNat)

/-! ## Powers of ten -/

/-- The product of two magnitudes. -/
def Magnitude.mul? (a b : Magnitude) : Option Magnitude :=
  roundShifted? (a.significand * b.significand) 1 (a.exponent + b.exponent)

/-- The quotient of two magnitudes. -/
def Magnitude.div? (a b : Magnitude) : Option Magnitude :=
  roundShifted? a.significand b.significand (a.exponent - b.exponent)

/-- The greatest power of ten that has a magnitude. -/
def maxPower : Nat := 308

/-- The magnitude nearest to a power of ten. -/
def powerOfTen? (power : Nat) : Option Magnitude :=
  round? (Nat.pow 10 power) 1

/-- A magnitude times a power of ten. -/
def Magnitude.scaleUp? (m : Magnitude) (power : Nat) : Option Magnitude :=
  if m.significand = 0 then some m
  else if maxPower < power then none
  else (powerOfTen? power).bind m.mul?

/-- A magnitude divided by `steps` times the greatest power of ten and then by a lower one. -/
def Magnitude.scaleDown? (power : Nat) : Nat → Magnitude → Option Magnitude
  | 0, m => (powerOfTen? power).bind m.div?
  | steps + 1, m =>
    -- Nothing is left of the number after a few steps.
    if m.significand = 0 then some m
    else ((powerOfTen? maxPower).bind m.div?).bind (scaleDown? power steps)

/-- The number for an integer times a power of ten; nothing if it is too large. -/
def ofDecimal? (negative : Bool) (integer : Nat) (exponent : Int) : Option Binary64 := do
  let m ← round? integer 1
  let scaled ←
    if 0 ≤ exponent then m.scaleUp? exponent.toNat
    else
      let steps := ((-exponent).toNat - 1) / maxPower
      m.scaleDown? ((-exponent).toNat - steps * maxPower) steps
  return ⟨negative, scaled.significand, scaled.exponent⟩

end Binary64

end SafeOps
