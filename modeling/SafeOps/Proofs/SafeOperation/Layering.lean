import SafeOps.Proofs.SafeOperation.Estimating
import SafeOps.Proofs.SafeOperation.Payment

/-!
# `SafeOps.Proofs.SafeOperation.Layering`: stages are laid over each other or merged in turn

Stages of pricing can be put into an operation one after another. They can also be laid over each
other first, so that only one stage is put in. Both come to the same, field by field, for all
fields but those of a paymaster (`Gas.merge_overlay`).

A paymaster may be named in the form of the other generation, and then it matters which stage comes
when: an address outweighs a packed form of the same stage, but not one of a later stage. `Native`
leaves such stages out. For all others laying over is merging in turn (`applied_overlay`).

The check of the second generation sees more if stages come in turn, since it looks at every
operation in between. So if all of them pass, the last one does, which is the one that the layered
stage leads to (`addEstimation_overlay`). The main statement is `layers_merge`, for two stages and
for any number of them.
-/

set_option autoImplicit false

namespace SafeOps

/-! ### Stages -/

namespace Estimation

/-- A stage that names who pays in the form of a generation, if at all: packed for the first
generation, in separate fields for the second. -/
def Native : EntryPoint → Estimation → Prop
  | .v06, e => e.paymaster = none
  | .v07, e => e.paymasterAndData = none

instance (generation : EntryPoint) (e : Estimation) : Decidable (e.Native generation) :=
  match generation with
  | .v06 => inferInstanceAs (Decidable (e.paymaster = none))
  | .v07 => inferInstanceAs (Decidable (e.paymasterAndData = none))

theorem native_empty (generation : EntryPoint) : empty.Native generation := by
  cases generation <;> rfl

theorem Native.overlay {generation : EntryPoint} {a b : Estimation} (ha : a.Native generation)
    (hb : b.Native generation) : (a.overlay b).Native generation := by
  cases generation with
  | v06 =>
    show b.paymaster.or a.paymaster = none
    rw [show b.paymaster = none from hb, show a.paymaster = none from ha]
    rfl
  | v07 =>
    show b.paymasterAndData.or a.paymasterAndData = none
    rw [show b.paymasterAndData = none from hb, show a.paymasterAndData = none from ha]
    rfl

end Estimation

/-! ### Merging -/

theorem Gas.merge_overlay (g : Gas) (a b : Estimation) :
    g.merge (a.overlay b) = (g.merge a).merge b := by
  simp [Gas.merge, Estimation.overlay, Option.getD_or]

theorem Paymaster.merge_overlay (p : Paymaster) {a b : Estimation} (ha : a.Native .v07)
    (hb : b.Native .v07) : p.merge (a.overlay b) = (p.merge a).merge b := by
  rw [merge_of_split p (ha.overlay hb), merge_of_split p ha, merge_of_split _ hb]
  simp [Estimation.overlay, Option.or_assoc]

theorem Shape.merge_overlay {shape : Shape} {a b : Estimation} (ha : a.Native shape.generation)
    (hb : b.Native shape.generation) :
    shape.merge (a.overlay b) = (shape.merge a).merge b := by
  cases shape with
  | v06 code packed =>
    have hlayered := ha.overlay hb
    simp only [generation, Estimation.Native] at ha hb hlayered
    -- No stage names an address, so the last packed form counts.
    simp only [merge, ha, hb, hlayered]
    simp only [Estimation.overlay]
    cases b.paymasterAndData <;> cases a.paymasterAndData <;> rfl
  | v07 factory data paymaster =>
    exact congrArg (Shape.v07 factory data) (paymaster.merge_overlay ha hb)

namespace UserOperation

/-- A stage that is laid over another one leaves what both leave in turn. -/
theorem applied_overlay {op : UserOperation} {a b : Estimation} (ha : a.Native op.generation)
    (hb : b.Native op.generation) :
    op.applied (a.overlay b) = (op.applied a).applied b := by
  have hshape : op.shape.merge (a.overlay b) = (op.shape.merge a).merge b :=
    Shape.merge_overlay ha hb
  simp only [applied, hshape, Gas.merge_overlay]

end UserOperation

namespace SafeOperation

variable {s : SafeOperation} {a b : Estimation}

/-- Two stages that are taken in turn are taken as one, with the same operation afterwards. -/
theorem addEstimation_overlay (hnative : a.Native s.operation.generation)
    (hnative' : b.Native s.operation.generation) (ha : (s.addEstimation a).1 = .ok ())
    (hb : ((s.addEstimation a).2.addEstimation b).1 = .ok ()) :
    s.addEstimation (a.overlay b) = (s.addEstimation a).2.addEstimation b := by
  have hfirst : (s.addEstimation a).2 = { s with operation := s.operation.applied a } :=
    step_estimate_of_ok ha
  rcases (s.addEstimation a).2.addEstimation_cases b with
    ⟨h, hempty⟩ | ⟨error, h⟩ | ⟨h, hsigned, hfits⟩
  · -- The second stage knows nothing, so only the first one is left.
    obtain rfl : b = .empty := of_decide_eq_true hempty
    rw [h, Estimation.overlay_empty]
    exact Prod.ext ha rfl
  · rw [h] at hb
    cases hb
  · rw [hfirst] at h hsigned hfits
    have hmerge := UserOperation.applied_overlay hnative hnative'
    -- What the check has found to fit is the operation that the layered stage leads to.
    rw [hfirst, h, ← hmerge]
    exact addEstimation_of_fits (List.isEmpty_iff.mp hsigned) (hmerge ▸ hfits)

/-- Stages that are taken in turn, after one that has been taken, are taken as one with it. -/
theorem addEstimation_foldl_overlay {known : Estimation} {es : List Estimation} {t : SafeOperation}
    (hknown : s.addEstimation known = (.ok (), t)) (hnative : known.Native s.operation.generation)
    (hnatives : ∀ e ∈ es, e.Native s.operation.generation) (htakes : t.Accepts es) :
    s.addEstimation (es.foldl Estimation.overlay known)
      = (.ok (), t.run (es.map .estimate)) := by
  induction es generalizing known t with
  | nil => exact hknown
  | cons e rest ih =>
    obtain ⟨hfirst, hrest⟩ := List.forall_mem_cons.mp hnatives
    have htaken : ((s.addEstimation known).2.addEstimation e).1 = .ok () := by
      rw [hknown]
      exact htakes.1
    have hlayered := addEstimation_overlay hnative hfirst (congrArg Prod.fst hknown) htaken
    rw [hknown] at hlayered
    have hstep : s.addEstimation (known.overlay e) = (.ok (), t.step (.estimate e)) :=
      hlayered.trans (Prod.ext htakes.1 rfl)
    exact ih hstep (hnative.overlay hfirst) hrest htakes.2

/-- Stages can be grouped freely, and a stage that knows nothing changes nothing. Two stages in the
form of an operation's generation that are taken in turn are taken when they are laid over each
other, and lead to the same operation; and so are any number of them. -/
theorem layers_merge :
    (∀ a b c : Estimation, (a.overlay b).overlay c = a.overlay (b.overlay c))
      ∧ (∀ e : Estimation, Estimation.empty.overlay e = e ∧ e.overlay .empty = e)
      ∧ (∀ (s : SafeOperation) (a b : Estimation), a.Native s.operation.generation →
          b.Native s.operation.generation → (s.addEstimation a).1 = .ok () →
          ((s.addEstimation a).2.addEstimation b).1 = .ok () →
          s.addEstimation (a.overlay b) = (.ok (), ((s.addEstimation a).2.addEstimation b).2))
      ∧ ∀ (s : SafeOperation) (es : List Estimation),
          (∀ e ∈ es, e.Native s.operation.generation) → s.Accepts es →
          s.addEstimation (Estimation.layered es) = (.ok (), s.run (es.map .estimate)) := by
  refine ⟨Estimation.overlay_assoc,
    fun e => ⟨Estimation.empty_overlay e, Estimation.overlay_empty e⟩, ?_, ?_⟩
  · intro s a b hnative hnative' ha hb
    rw [addEstimation_overlay hnative hnative' ha hb]
    exact Prod.ext hb rfl
  · intro s es hnatives htakes
    exact addEstimation_foldl_overlay (addEstimation_empty s) (Estimation.native_empty _) hnatives
      htakes

/-- In the second generation a paymaster comes after prices and corrects one of them. In the first
one the packed form of a paymaster is corrected, after a stage that knows nothing. -/
theorem layers_merge_sample :
    ∃ (d : Draft) (c c' : SigningContext) (s t : SafeOperation) (prices stub packed : Estimation),
      prices = { maxFee := some 9, maxPriorityFee := some 2 }
      ∧ stub = { maxFee := some 8, paymaster := some ⟨5⟩, paymasterData := some [0xab] }
      ∧ packed = { paymasterAndData := some [0xcd], paymasterData := some [0xab] }
      ∧ ofDraft d c = .ok s ∧ s.operation.generation = .v06
      ∧ ofDraft d c' = .ok t ∧ t.operation.generation = .v07
      ∧ t.addEstimation (prices.overlay stub)
        = (.ok (), ((t.addEstimation prices).2.addEstimation stub).2)
      ∧ s.addEstimation (Estimation.layered [packed, .empty, prices])
        = (.ok (), s.run [.estimate packed, .estimate .empty, .estimate prices]) := by
  let d : Draft := ⟨⟨1⟩, 3, [0x7b, 0xb3], some (⟨4⟩, [0x05]), .placeholder⟩
  let c : SigningContext := ⟨1, ⟨9⟩, EntryPoint.v06.address, 5, 8⟩
  let c' : SigningContext := ⟨1, ⟨9⟩, EntryPoint.v07.address, 5, 8⟩
  let prices : Estimation := { maxFee := some 9, maxPriorityFee := some 2 }
  let stub : Estimation :=
    { maxFee := some 8, paymaster := some ⟨5⟩, paymasterData := some [0xab] }
  let packed : Estimation := { paymasterAndData := some [0xcd], paymasterData := some [0xab] }
  obtain ⟨s, hs, hgeneration, htakes⟩ : ∃ s, ofDraft d c = .ok s ∧ s.operation.generation = .v06
      ∧ s.Accepts [packed, .empty, prices] := ⟨_, rfl, rfl, rfl, rfl, rfl, trivial⟩
  obtain ⟨t, ht, hgeneration', hprices, hstub⟩ : ∃ t, ofDraft d c' = .ok t
      ∧ t.operation.generation = .v07 ∧ (t.addEstimation prices).1 = .ok ()
      ∧ ((t.addEstimation prices).2.addEstimation stub).1 = .ok () := ⟨_, rfl, rfl, rfl, rfl⟩
  obtain ⟨-, -, htwo, hmany⟩ := layers_merge
  have hnative : ∀ e ∈ [packed, .empty, prices], e.Native s.operation.generation := by
    rw [hgeneration]
    decide
  have hnative' : prices.Native t.operation.generation ∧ stub.Native t.operation.generation := by
    rw [hgeneration']
    decide
  exact ⟨d, c, c', s, t, prices, stub, packed, rfl, rfl, rfl, hs, hgeneration, ht, hgeneration',
    htwo t prices stub hnative'.1 hnative'.2 hprices hstub, hmany s _ hnative htakes⟩

end SafeOperation

end SafeOps
