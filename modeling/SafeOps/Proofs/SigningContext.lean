import SafeOps.SigningContext

/-!
# `SafeOps.Proofs.SigningContext`: spans of time that are let through

The bounds of a span of time are signed with 48 bits. `Sound` says that they fit and are in
order, and `checkWindow_eq_ok_iff` that the check of a context finds out exactly this.
-/

set_option autoImplicit false

namespace SafeOps.SigningContext

/-- A span of time that the check lets through: both bounds fit 48 bits, and an upper bound
does not lie before the lower one. -/
structure Sound (c : SigningContext) : Prop where
  validAfter_lt : c.validAfter.toNat < limit 48
  validUntil_lt : c.validUntil.toNat < limit 48
  ordered : c.validUntil = 0 ∨ c.validAfter.toNat ≤ c.validUntil.toNat

/-- The check of a span of time succeeds exactly if the span is sound. -/
theorem checkWindow_eq_ok_iff {c : SigningContext} :
    c.checkWindow = .ok () ↔ c.Sound := by
  unfold checkWindow
  constructor
  · intro h
    split at h
    · cases h
    · rename_i hlimit
      split at h
      · cases h
      · rename_i horder
        refine ⟨by omega, by omega, ?_⟩
        by_cases hzero : c.validUntil = 0
        · exact Or.inl hzero
        · exact Or.inr (Nat.le_of_not_lt fun hlt => horder ⟨hzero, hlt⟩)
  · intro h
    have hafter := h.validAfter_lt
    have huntil := h.validUntil_lt
    rw [if_neg (by omega), if_neg]
    rintro ⟨hne, hlt⟩
    rcases h.ordered with hzero | hle
    · exact hne hzero
    · omega

end SafeOps.SigningContext
