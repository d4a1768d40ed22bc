import SafeOps.EntryPoint

/-!
# `SafeOps.SigningContext`: what a signature is bound to besides the operation

Owners sign an operation for one chain, one module and one entry point, and for a span
of time. A bound of zero is no bound. The bounds are written with 48 bits, and an upper
bound must not lie before the lower one.
-/

set_option autoImplicit false

namespace SafeOps

/-- What a signature is bound to besides the operation. -/
structure SigningContext where
  chainId : BitVec 64
  /-- The module that checks the signature. -/
  module : Address
  /-- The entry point the operation goes to; it decides on the shape. -/
  entryPoint : Address
  /-- The first second in which the operation is valid. -/
  validAfter : BitVec 64
  /-- The last second in which the operation is valid. -/
  validUntil : BitVec 64
  deriving DecidableEq, Repr

/-- Why a span of time was refused. -/
inductive WindowFault where
  /-- A bound does not fit 48 bits. -/
  | tooLarge
  /-- The upper bound lies before the lower one. -/
  | reversed (validAfter validUntil : BitVec 64)
  deriving DecidableEq, Repr

/-- The fault in words. -/
def WindowFault.message : WindowFault → String
  | .tooLarge => "timestamps must fit in uint48"
  | .reversed validAfter validUntil =>
    "valid_after " ++ Quantity.decimal validAfter ++ " is later than valid_until "
      ++ Quantity.decimal validUntil

namespace SigningContext

/-- Checks the span of time. -/
def checkWindow (c : SigningContext) : Except WindowFault Unit :=
  if limit 48 ≤ c.validAfter.toNat ∨ limit 48 ≤ c.validUntil.toNat then .error .tooLarge
  else if c.validUntil ≠ 0 ∧ c.validUntil.toNat < c.validAfter.toNat then
    .error (.reversed c.validAfter c.validUntil)
  else .ok ()

end SigningContext

end SafeOps
