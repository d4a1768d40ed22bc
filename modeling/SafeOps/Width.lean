/-!
# `SafeOps.Width`: how many numbers a width holds

Numbers of a fixed width are those below its limit. Quantities, lengths and lanes of nonces
are all checked against such limits before they are narrowed.

* `limit_add`: widths that add up have limits that multiply.
-/

set_option autoImplicit false

namespace SafeOps

/-- How many numbers have `bits` bits. They are those below. -/
def limit (bits : Nat) : Nat :=
  Nat.pow 2 bits

theorem limit_pos (bits : Nat) : 0 < limit bits :=
  Nat.two_pow_pos bits

theorem limit_le_limit {a b : Nat} (h : a ≤ b) : limit a ≤ limit b :=
  Nat.pow_le_pow_right Nat.two_pos h

theorem limit_add (a b : Nat) : limit (a + b) = limit a * limit b :=
  Nat.pow_add 2 a b

theorem limit_64 : limit 64 = 18446744073709551616 := rfl

end SafeOps
