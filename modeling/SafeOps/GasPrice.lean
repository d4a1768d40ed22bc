import SafeOps.Quantity

/-!
# `SafeOps.GasPrice`: prices with a margin

A node's prices are raised by percentages before they go into an operation, and the most
to pay per gas is never less than the tip. Products that do not fit 256 bits are cut off
at the largest quantity before the division.
-/

set_option autoImplicit false

namespace SafeOps

/-- The smaller of a number and the largest quantity. -/
def saturate (n : Nat) : Word :=
  if n < limit 256 then BitVec.ofNat 256 n else BitVec.allOnes 256

/-- Percentages of a node's prices. -/
structure PriceMargin where
  maxFee : BitVec 64 := 150
  maxPriorityFee : BitVec 64 := 150
  deriving DecidableEq, Repr

/-- What an operation offers per gas. -/
structure GasPrice where
  /-- The most to pay. -/
  maxFee : Word
  /-- The tip. -/
  maxPriorityFee : Word
  deriving DecidableEq, Repr

namespace PriceMargin

/-- A percentage of a price. -/
def scale (price : Word) (percent : BitVec 64) : Word :=
  saturate (price.toNat * percent.toNat) / 100

/-- The prices to offer, from those of a node. -/
def apply (m : PriceMargin) (price tip : Word) : GasPrice :=
  let tip' := scale tip m.maxPriorityFee
  let fee := scale price m.maxFee
  ⟨if fee.toNat < tip'.toNat then tip' else fee, tip'⟩

end PriceMargin

end SafeOps
