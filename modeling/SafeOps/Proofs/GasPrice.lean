import SafeOps.GasPrice

/-!
# `SafeOps.Proofs.GasPrice`: offers that never fall when prices rise

A price is multiplied by its percentage within a word. A product that does not fit is cut off, and
only then divided, so from there on the scaled price stays the same. `Scales` says this of the
numbers: exactly the percentage, rounded down, as long as the product fits.

Cutting off and dividing keep the order of numbers, and so does the maximum of fee and tip. So
`apply_le_apply` needs no look at where the products stop to fit. The main statement,
`exact_apply`, puts this together.
-/

set_option autoImplicit false

namespace SafeOps

theorem toNat_saturate (n : Nat) : (saturate n).toNat = min n (limit 256 - 1) := by
  by_cases h : n < limit 256
  · have hmod : n % 2 ^ 256 = n := Nat.mod_eq_of_lt h
    rw [saturate, if_pos h, BitVec.toNat_ofNat, hmod]
    omega
  · have hmax : (BitVec.allOnes 256).toNat = limit 256 - 1 := BitVec.toNat_allOnes
    rw [saturate, if_neg h, hmax]
    omega

namespace PriceMargin

/-! ### One price -/

/-- The word is the percentage of the price, or that of the largest word if the product does not
fit. -/
structure Scales (price : Word) (percent : BitVec 64) (scaled : Word) : Prop where
  exact : price.toNat * percent.toNat < limit 256 →
    scaled.toNat = price.toNat * percent.toNat / 100
  cut : limit 256 ≤ price.toNat * percent.toNat → scaled.toNat = (limit 256 - 1) / 100

variable {price price' tip tip' : Word} {percent percent' : BitVec 64}

theorem toNat_scale (price : Word) (percent : BitVec 64) :
    (scale price percent).toNat = min (price.toNat * percent.toNat) (limit 256 - 1) / 100 := by
  show (saturate (price.toNat * percent.toNat) / 100).toNat = _
  rw [BitVec.toNat_udiv, toNat_saturate]
  rfl

theorem scales_scale (price : Word) (percent : BitVec 64) :
    Scales price percent (scale price percent) where
  exact := by
    intro hfits
    rw [toNat_scale, Nat.min_eq_left (by omega)]
  cut := by
    intro hlarge
    rw [toNat_scale, Nat.min_eq_right (by omega)]

/-- Both steps, the cut and the division, keep the order, on either side of the cut and across
it. -/
theorem scale_le_scale (hprice : price.toNat ≤ price'.toNat)
    (hpercent : percent.toNat ≤ percent'.toNat) :
    (scale price percent).toNat ≤ (scale price' percent').toNat := by
  have hproduct : price.toNat * percent.toNat ≤ price'.toNat * percent'.toNat :=
    Nat.mul_le_mul hprice hpercent
  have hcut : min (price.toNat * percent.toNat) (limit 256 - 1)
      ≤ min (price'.toNat * percent'.toNat) (limit 256 - 1) := by omega
  rw [toNat_scale, toNat_scale]
  exact Nat.div_le_div_right hcut

/-! ### Offers -/

variable (m : PriceMargin)

theorem maxFee_apply (price tip : Word) :
    (m.apply price tip).maxFee.toNat
      = max (scale price m.maxFee).toNat (m.apply price tip).maxPriorityFee.toNat := by
  have htip : (m.apply price tip).maxPriorityFee = scale tip m.maxPriorityFee := rfl
  rw [htip]
  show (if (scale price m.maxFee).toNat < (scale tip m.maxPriorityFee).toNat
    then scale tip m.maxPriorityFee else scale price m.maxFee).toNat = _
  split
  · omega
  · omega

/-- Neither part of an offer falls when prices and percentages rise. -/
theorem apply_le_apply {m m' : PriceMargin} (hprice : price.toNat ≤ price'.toNat)
    (htip : tip.toNat ≤ tip'.toNat) (hfee : m.maxFee.toNat ≤ m'.maxFee.toNat)
    (hpriority : m.maxPriorityFee.toNat ≤ m'.maxPriorityFee.toNat) :
    (m.apply price tip).maxFee.toNat ≤ (m'.apply price' tip').maxFee.toNat
      ∧ (m.apply price tip).maxPriorityFee.toNat
        ≤ (m'.apply price' tip').maxPriorityFee.toNat := by
  have hpart : (m.apply price tip).maxPriorityFee.toNat
      ≤ (m'.apply price' tip').maxPriorityFee.toNat := scale_le_scale htip hpriority
  have hscaled := scale_le_scale hprice hfee
  refine ⟨?_, hpart⟩
  rw [maxFee_apply, maxFee_apply]
  omega

/-- The tip offered is the node's tip with its percentage. The fee offered is the node's price with
its percentage, or the tip if that is more, so it is never below the tip. Whatever rises, prices or
percentages, neither of the two falls. -/
theorem exact_apply (m : PriceMargin) (price tip : Word) :
    Scales tip m.maxPriorityFee (m.apply price tip).maxPriorityFee
      ∧ (∃ fee, Scales price m.maxFee fee
        ∧ (m.apply price tip).maxFee.toNat
          = max fee.toNat (m.apply price tip).maxPriorityFee.toNat)
      ∧ (m.apply price tip).maxPriorityFee.toNat ≤ (m.apply price tip).maxFee.toNat
      ∧ ∀ (m' : PriceMargin) (price' tip' : Word), price.toNat ≤ price'.toNat →
        tip.toNat ≤ tip'.toNat → m.maxFee.toNat ≤ m'.maxFee.toNat →
        m.maxPriorityFee.toNat ≤ m'.maxPriorityFee.toNat →
        (m.apply price tip).maxFee.toNat ≤ (m'.apply price' tip').maxFee.toNat
          ∧ (m.apply price tip).maxPriorityFee.toNat
            ≤ (m'.apply price' tip').maxPriorityFee.toNat := by
  have hmax := m.maxFee_apply price tip
  refine ⟨scales_scale tip m.maxPriorityFee, ?_, ?_, ?_⟩
  · exact ⟨scale price m.maxFee, scales_scale price m.maxFee, hmax⟩
  · omega
  · intro m' price' tip' hprice htip hfee hpriority
    exact apply_le_apply hprice htip hfee hpriority

/-- The largest price whose product with 150 still fits. -/
def lastExact : Word := BitVec.allOnes 256 / 150

/-- The next price is cut off, and nothing falls there. -/
theorem exact_apply_across :
    lastExact.toNat * 150 < limit 256 ∧ limit 256 ≤ (lastExact + 1).toNat * 150
      ∧ (({} : PriceMargin).apply lastExact 1).maxFee.toNat
        ≤ (({} : PriceMargin).apply (lastExact + 1) 1).maxFee.toNat
      ∧ (({} : PriceMargin).apply (lastExact + 1) (lastExact + 1)).maxPriorityFee.toNat
        = (limit 256 - 1) / 100 :=
  ⟨by decide, by decide,
    ((exact_apply {} lastExact 1).2.2.2 {} (lastExact + 1) 1 (by decide) (by decide) (by decide)
      (by decide)).1,
    (exact_apply {} (lastExact + 1) (lastExact + 1)).1.cut (by decide)⟩

end PriceMargin

end SafeOps
