/-!
# `SafeOps.Text.Digits`: numbers written in digits

A digit is known by its character code, so that bytes and characters share one rule: `0` to
`9`, then the letters of either case. `digits?` reads a number in any radix, and
`decimalValue` one that is known to be decimal.

* `digit?_lt`: a digit is below its radix.
* `decimalValue_append`: a digit more shifts those before it.
-/

set_option autoImplicit false

namespace SafeOps.Text

/-! ## Reading -/

/-- The value of the digit with a character code, if there is one below the radix. -/
def digit? (radix code : Nat) : Option Nat :=
  let value? : Option Nat :=
    if 48 ≤ code ∧ code ≤ 57 then some (code - 48)
    else if 97 ≤ code ∧ code ≤ 122 then some (code - 87)
    else if 65 ≤ code ∧ code ≤ 90 then some (code - 55)
    else none
  value?.filter (· < radix)

/-- The number that digits of a radix spell; zero if there are none. -/
def digits? (radix : Nat) (cs : List Char) : Option Nat :=
  cs.foldlM (fun n c => (digit? radix c.toNat).map (n * radix + ·)) 0

/-- The number that decimal digits spell. -/
def decimalValue (ds : List Char) : Nat :=
  ds.foldl (fun n d => n * 10 + (d.toNat - 48)) 0

/-! ## Writing -/

/-- Lowercase hexadecimal digits of `n`, without leading zeros. -/
def hexDigits (n : Nat) : String :=
  String.ofList (Nat.toDigits 16 n)

/-! ## Bounds -/

theorem digit?_lt {radix code d : Nat} (h : digit? radix code = some d) : d < radix := by
  obtain ⟨_, hlt⟩ := Option.filter_eq_some_iff.1 h
  simpa using hlt

theorem decimalValue_append (ds : List Char) (d : Char) :
    decimalValue (ds ++ [d]) = decimalValue ds * 10 + (d.toNat - 48) := by
  simp [decimalValue]

end SafeOps.Text
