/-!
# `SafeOps.Text.Runs`: properties of characters

A property of characters is kept as the lengths of runs: code points without it and with it
take turns, starting with those without. This is short, since neighbours mostly agree.

* `holds_pair`: what a single run says.
-/

set_option autoImplicit false

namespace SafeOps.Text

/-- Whether a number has the property that runs describe. -/
def holds : List Nat → Nat → Bool
  | gap :: run :: rest, n =>
    if n < gap then false
    else if n < gap + run then true
    else holds rest (n - gap - run)
  | _, _ => false

/-- A single run. -/
theorem holds_pair (gap run n : Nat) :
    holds [gap, run] n = true ↔ gap ≤ n ∧ n < gap + run := by
  simp only [holds]
  split
  · simp; omega
  · split <;> simp <;> omega

end SafeOps.Text
