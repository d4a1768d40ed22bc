import SafeOps.NonceLane

/-!
# `SafeOps.Proofs.NonceLane`: places that never share a nonce

A nonce is computed within a word. The key is shifted above the count; to take a nonce apart the
key is shifted back, and a mask leaves the count. What comes out is then narrowed to the width of
a key and of a count, which fails for a number that does not fit (`narrow?`). `shifted` and
`split?` are these computations. They agree with `nonce` and `ofNonce`, so narrowing never fails
(`shifted_eq_nonce`, `split?_eq`).

Places and nonces correspond one to one, and the nonces of the default lane are those below
`limit 64` (`toNat_nonce_lt_iff`). The main statement, `bijective_nonce`, puts this together.
-/

set_option autoImplicit false

namespace SafeOps

/-- The number with fewer bits, if it fits. -/
def narrow? {width : Nat} (bits : Nat) (x : BitVec width) : Option (BitVec bits) :=
  if x.toNat < limit bits then some (x.setWidth bits) else none

/-- A number is narrowed to what has the same value, if there is such a thing. -/
theorem narrow?_eq_some_iff {width bits : Nat} {x : BitVec width} {y : BitVec bits} :
    narrow? bits x = some y ↔ x.toNat = y.toNat := by
  have hy : y.toNat < limit bits := y.isLt
  unfold narrow?
  split
  · rename_i hlt
    have hmod : x.toNat % 2 ^ bits = x.toNat := Nat.mod_eq_of_lt hlt
    rw [Option.some.injEq, ← BitVec.toNat_inj, BitVec.toNat_setWidth, hmod]
  · rename_i hge
    exact ⟨nofun, fun heq => absurd (heq ▸ hy) hge⟩

namespace NonceLane

/-- The nonce of a place, computed within a word. -/
def shifted (l : NonceLane) : Word :=
  l.key.setWidth 256 <<< 64 ||| l.sequence.setWidth 256

/-- The place a nonce stands for, computed within a word. -/
def split? (n : Word) : Option NonceLane := do
  let sequence ← narrow? 64 (n &&& BitVec.ofNat 256 (limit 64 - 1))
  let key ← narrow? 192 (n >>> 64)
  return ⟨key, sequence⟩

theorem shifted_eq_nonce (l : NonceLane) : l.shifted = l.nonce := by
  have hkey := l.key.isLt
  have hsequence := l.sequence.isLt
  have hwide : l.key.toNat % 2 ^ 256 = l.key.toNat := Nat.mod_eq_of_lt (by omega)
  have hlow : l.sequence.toNat % 2 ^ 256 = l.sequence.toNat := Nat.mod_eq_of_lt (by omega)
  -- A key is so short that no bit of it is lost when it is shifted.
  have hhigh : l.key.toNat <<< 64 % 2 ^ 256 = l.key.toNat <<< 64 := by
    rw [Nat.shiftLeft_eq]
    omega
  apply BitVec.eq_of_toNat_eq
  rw [shifted, nonce, BitVec.toNat_append, BitVec.toNat_or, BitVec.toNat_shiftLeft,
    BitVec.toNat_setWidth, BitVec.toNat_setWidth, hwide, hlow, hhigh]

/-- Both parts of a nonce fit, so it is always taken apart. -/
theorem split?_eq (n : Word) : split? n = some (ofNonce n) := by
  have hn := n.isLt
  have hsequence : narrow? 64 (n &&& BitVec.ofNat 256 (limit 64 - 1))
      = some (ofNonce n).sequence := by
    rw [narrow?_eq_some_iff, ofNonce, BitVec.toNat_setWidth, BitVec.toNat_and]
    exact Nat.and_two_pow_sub_one_eq_mod n.toNat 64
  have hkey : narrow? 192 (n >>> 64) = some (ofNonce n).key := by
    rw [narrow?_eq_some_iff, ofNonce, BitVec.extractLsb'_toNat, BitVec.toNat_ushiftRight,
      Nat.shiftRight_eq_div_pow]
    omega
  rw [split?, hsequence, hkey]
  rfl

theorem nonce_injective {l l' : NonceLane} (h : l.nonce = l'.nonce) : l = l' := by
  rw [← ofNonce_nonce l, h, ofNonce_nonce]

/-- The default lane has the nonces below `limit 64`, and no other lane has any of them. -/
theorem toNat_nonce_lt_iff {l : NonceLane} : l.nonce.toNat < limit 64 ↔ l.key = 0 := by
  have hsequence := l.sequence.isLt
  have hzero : l.key.toNat = 0 ↔ l.key = 0 := BitVec.toNat_inj (y := 0)
  rw [toNat_nonce, limit_64, ← hzero]
  omega

theorem key_fresh_ne_zero (random : BitVec 192) : (fresh random).key ≠ 0 := by
  intro hzero
  have htop : (fresh random).key.getLsbD 191 = true := by
    simp [fresh]
  rw [hzero] at htop
  simp at htop

/-- Places and nonces correspond one to one, and the computations within a word that lead from one
to the other never fail. So different places have different nonces, and a place in another lane
has no nonce of the default lane; a place in a fresh lane is such a place. -/
theorem bijective_nonce :
    (∀ l : NonceLane, l.shifted = l.nonce ∧ ofNonce l.nonce = l)
      ∧ (∀ n : Word, split? n = some (ofNonce n) ∧ (ofNonce n).nonce = n)
      ∧ (∀ l l' : NonceLane, l.key ≠ l'.key ∨ l.sequence ≠ l'.sequence → l.nonce ≠ l'.nonce)
      ∧ (∀ l : NonceLane, l.key ≠ 0 → ∀ sequence, l.nonce ≠ (default sequence).nonce)
      ∧ ∀ random sequence, (fresh random).nonce ≠ (default sequence).nonce := by
  have hdistinct : ∀ l l' : NonceLane, l.key ≠ l'.key ∨ l.sequence ≠ l'.sequence →
      l.nonce ≠ l'.nonce := by
    intro l l' hne heq
    obtain rfl := nonce_injective heq
    exact hne.elim (fun hkey => hkey rfl) (fun hsequence => hsequence rfl)
  have hapart : ∀ l : NonceLane, l.key ≠ 0 → ∀ sequence, l.nonce ≠ (default sequence).nonce := by
    intro l hkey sequence heq
    have hdefault : (default sequence).nonce.toNat < limit 64 := toNat_nonce_lt_iff.mpr (Eq.refl 0)
    rw [← heq] at hdefault
    exact hkey (toNat_nonce_lt_iff.mp hdefault)
  exact ⟨fun l => ⟨shifted_eq_nonce l, ofNonce_nonce l⟩,
    fun n => ⟨split?_eq n, nonce_ofNonce n⟩, hdistinct, hapart,
    fun random => hapart (fresh random) (key_fresh_ne_zero random)⟩

/-- The last place of a lane whose key has its lowest and its highest bit. -/
theorem bijective_nonce_sample :
    (⟨1 ||| BitVec.twoPow 192 191, BitVec.allOnes 64⟩ : NonceLane).nonce
        ≠ (default (BitVec.allOnes 64)).nonce
      ∧ ofNonce (⟨1 ||| BitVec.twoPow 192 191, BitVec.allOnes 64⟩ : NonceLane).nonce
        = ⟨1 ||| BitVec.twoPow 192 191, BitVec.allOnes 64⟩ :=
  ⟨bijective_nonce.2.2.2.1 _ (by decide) _, (bijective_nonce.1 _).2⟩

end NonceLane

end SafeOps
