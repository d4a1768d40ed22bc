import Mathlib.Algebra.Group.Nat.Defs
import SafeOps.Proofs.UserOperation.Fits
import SafeOps.UserOperation.Hash

/-!
# `SafeOps.Proofs.UserOperation.Words`: quantities in the words that are hashed

Hashes of an operation are made from words. A shorter quantity is widened to a word, which
loses nothing. A gas field of the second generation is first cut to 128 bits, and a bound of
the span of time to 48, which loses nothing only if it fits (`narrowWord_of_lt`,
`pairWord_injective`).

So the gas words of a fitting operation tell all of its gas fields: `gas_of_recordGasWords` for
what owners sign, and `gas_of_entryPointGasWords` for the entry point's hash, where two fields
share a word.
-/

set_option autoImplicit false

namespace SafeOps

/-! ### One quantity in a word -/

theorem setWidth_injective {width wider : Nat} (hwider : width ≤ wider) {x y : BitVec width}
    (h : x.setWidth wider = y.setWidth wider) : x = y := by
  have hback := congrArg (BitVec.setWidth width) h
  rwa [BitVec.setWidth_setWidth_of_le _ hwider, BitVec.setWidth_setWidth_of_le _ hwider,
    BitVec.setWidth_eq, BitVec.setWidth_eq] at hback

theorem Address.toWord_injective {a b : Address} (h : a.toWord = b.toWord) : a = b := by
  rw [← Address.ofWord_toWord a, h, Address.ofWord_toWord]

theorem clamp_of_lt {width bits : Nat} {x : BitVec width} (h : x.toNat < limit bits) :
    clamp bits x = x.setWidth bits :=
  if_pos h

theorem clamp_injective {width bits : Nat} {x y : BitVec width} (hx : x.toNat < limit bits)
    (hy : y.toNat < limit bits) (h : clamp bits x = clamp bits y) : x = y := by
  rw [clamp_of_lt hx, clamp_of_lt hy] at h
  have hnat := congrArg BitVec.toNat h
  have hlowx : x.toNat % 2 ^ bits = x.toNat := Nat.mod_eq_of_lt hx
  have hlowy : y.toNat % 2 ^ bits = y.toNat := Nat.mod_eq_of_lt hy
  rw [BitVec.toNat_setWidth, BitVec.toNat_setWidth, hlowx, hlowy] at hnat
  exact BitVec.eq_of_toNat_eq hnat

namespace UserOperation

/-- A quantity that fits so many bits is not changed where it is narrowed. -/
theorem narrowWord_of_lt {width bits : Nat} {x : BitVec width} (h : x.toNat < limit bits) :
    narrowWord bits x = x.setWidth 256 := by
  rw [narrowWord, clamp, if_pos h]
  apply BitVec.eq_of_toNat_eq
  have hlow : x.toNat % 2 ^ bits = x.toNat := Nat.mod_eq_of_lt h
  rw [BitVec.toNat_setWidth, BitVec.toNat_setWidth, BitVec.toNat_setWidth, hlow]

theorem narrowWord_injective {width bits : Nat} (hwidth : width ≤ 256) {x y : BitVec width}
    (hx : x.toNat < limit bits) (hy : y.toNat < limit bits)
    (h : narrowWord bits x = narrowWord bits y) : x = y := by
  rw [narrowWord_of_lt hx, narrowWord_of_lt hy] at h
  exact setWidth_injective hwidth h

/-! ### Two quantities in a word -/

theorem toNat_append_eq {m n : Nat} (high : BitVec m) (low : BitVec n) :
    (high ++ low).toNat = high.toNat * 2 ^ n + low.toNat := by
  rw [BitVec.toNat_append, ← Nat.shiftLeft_add_eq_or_of_lt low.isLt, Nat.shiftLeft_eq]

theorem append_injective {m n : Nat} {high high' : BitVec m} {low low' : BitVec n}
    (h : high ++ low = high' ++ low') : high = high' ∧ low = low' := by
  have hnat := congrArg BitVec.toNat h
  rw [toNat_append_eq, toNat_append_eq] at hnat
  have hhigh : high.toNat = high'.toNat := by
    -- The lower part is less than a unit of the higher one, so dividing drops it.
    have hpos : 0 < 2 ^ n := Nat.two_pow_pos n
    have hdiv := congrArg (· / 2 ^ n) hnat
    simpa only [Nat.mul_comm _ (2 ^ n), Nat.mul_add_div hpos, Nat.div_eq_of_lt low.isLt,
      Nat.div_eq_of_lt low'.isLt, Nat.add_zero] using hdiv
  rw [hhigh] at hnat
  exact ⟨BitVec.eq_of_toNat_eq hhigh, BitVec.eq_of_toNat_eq (Nat.add_left_cancel hnat)⟩

/-- Two fitting quantities can be told from the word they share. -/
theorem pairWord_injective {high low high' low' : Word} (hhigh : high.toNat < limit 128)
    (hlow : low.toNat < limit 128) (hhigh' : high'.toNat < limit 128)
    (hlow' : low'.toNat < limit 128) (h : pairWord high low = pairWord high' low') :
    high = high' ∧ low = low' := by
  obtain ⟨hh, hl⟩ := append_injective h
  exact ⟨clamp_injective hhigh hhigh' hh, clamp_injective hlow hlow' hl⟩

/-! ### Gas -/

/-- The gas words of the entry point's hash. -/
def entryPointGasWords (op : UserOperation) : List Word :=
  match op.generation with
  | .v06 =>
    [op.gas.call, op.gas.verification, op.gas.preVerification, op.gas.maxFee,
     op.gas.maxPriorityFee]
  | .v07 =>
    [pairWord op.gas.verification op.gas.call, op.gas.preVerification,
     pairWord op.gas.maxPriorityFee op.gas.maxFee]

variable {op op' : UserOperation}

theorem gas_eq (hcall : op.gas.call = op'.gas.call)
    (hverification : op.gas.verification = op'.gas.verification)
    (hpre : op.gas.preVerification = op'.gas.preVerification)
    (hfee : op.gas.maxFee = op'.gas.maxFee)
    (htip : op.gas.maxPriorityFee = op'.gas.maxPriorityFee) : op.gas = op'.gas := by
  cases hg : op.gas
  cases hg' : op'.gas
  simp_all

/-- Fitting operations of one generation have the gas that their record's words tell. -/
theorem gas_of_recordGasWords (hgeneration : op.generation = op'.generation) (hfits : op.Fits)
    (hfits' : op'.Fits) (h : op.recordGasWords = op'.recordGasWords) : op.gas = op'.gas := by
  cases hg : op.generation with
  | v06 =>
    have hg' : op'.generation = .v06 := hgeneration ▸ hg
    simp only [recordGasWords, hg, hg', List.cons.injEq, and_true] at h
    obtain ⟨hcall, hverification, hpre, hfee, htip⟩ := h
    exact gas_eq hcall hverification hpre hfee htip
  | v07 =>
    have hg' : op'.generation = .v07 := hgeneration ▸ hg
    simp only [recordGasWords, hg, hg', List.cons.injEq, and_true] at h
    obtain ⟨hverification, hcall, hpre, htip, hfee⟩ := h
    obtain ⟨hltCall, hltVerification, hltFee, hltTip⟩ := gas_lt_of_fits hfits hg
    obtain ⟨hltCall', hltVerification', hltFee', hltTip'⟩ := gas_lt_of_fits hfits' hg'
    have hword : 256 ≤ 256 := Nat.le_refl 256
    exact gas_eq (narrowWord_injective hword hltCall hltCall' hcall)
      (narrowWord_injective hword hltVerification hltVerification' hverification) hpre
      (narrowWord_injective hword hltFee hltFee' hfee)
      (narrowWord_injective hword hltTip hltTip' htip)

/-- Fitting operations of one generation have the gas that the entry point's words tell. -/
theorem gas_of_entryPointGasWords (hgeneration : op.generation = op'.generation)
    (hfits : op.Fits) (hfits' : op'.Fits)
    (h : op.entryPointGasWords = op'.entryPointGasWords) : op.gas = op'.gas := by
  cases hg : op.generation with
  | v06 =>
    have hg' : op'.generation = .v06 := hgeneration ▸ hg
    simp only [entryPointGasWords, hg, hg', List.cons.injEq, and_true] at h
    obtain ⟨hcall, hverification, hpre, hfee, htip⟩ := h
    exact gas_eq hcall hverification hpre hfee htip
  | v07 =>
    have hg' : op'.generation = .v07 := hgeneration ▸ hg
    simp only [entryPointGasWords, hg, hg', List.cons.injEq, and_true] at h
    obtain ⟨hlimits, hpre, hprices⟩ := h
    obtain ⟨hltCall, hltVerification, hltFee, hltTip⟩ := gas_lt_of_fits hfits hg
    obtain ⟨hltCall', hltVerification', hltFee', hltTip'⟩ := gas_lt_of_fits hfits' hg'
    obtain ⟨hverification, hcall⟩ :=
      pairWord_injective hltVerification hltCall hltVerification' hltCall' hlimits
    obtain ⟨htip, hfee⟩ := pairWord_injective hltTip hltFee hltTip' hltFee' hprices
    exact gas_eq hcall hverification hpre hfee htip

end UserOperation

end SafeOps
