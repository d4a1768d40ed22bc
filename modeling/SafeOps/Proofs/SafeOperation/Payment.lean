import SafeOps.Proofs.SafeOperation.Generations
import SafeOps.Proofs.UserOperation.Merging

/-!
# `SafeOps.Proofs.SafeOperation.Payment`: a paymaster in fields and in packed form

Stages of pricing may name a paymaster and its data in separate fields. The second generation of
entry points keeps the two fields apart: each of them is replaced when a stage names it, so at any
time they are what the stages have named last (`Knows`). The first generation has one field for
both. It is put together anew when a stage names a paymaster, from what this stage alone knows,
and is left as it is when a stage names only data.

So the two come apart. Data that comes without its paymaster is passed over, and a paymaster that
comes without its data drops the data there was. `Estimation.Completes` is exactly what a stage
must not leave out (`payment_applied_iff`), and `payments_agree_iff` says for whole runs that
the generations agree after every stage if and only if all stages are complete. Two short runs in
which they do not are right behind it.
-/

set_option autoImplicit false

namespace SafeOps

/-! ### Who pays -/

/-- A paymaster followed by its data, without gas limits. It is empty without a paymaster. -/
def Paymaster.payment (p : Paymaster) : Bytes :=
  match p.address with
  | none => []
  | some address => address.toBytes ++ p.data.getD []

/-- The packed field of the first generation, or the paymaster and the data of the second. -/
def UserOperation.payment (op : UserOperation) : Bytes :=
  match op.shape with
  | .v06 _ packed => packed
  | .v07 _ _ paymaster => paymaster.payment

theorem UserOperation.payment_of_generation_v06 {op : UserOperation}
    (h : op.generation = .v06) : op.payment = op.paymasterAndData := by
  cases hshape : op.shape with
  | v06 code packed => simp [payment, paymasterAndData, Shape.paymasterAndData, hshape]
  | v07 factory data paymaster => simp [generation, Shape.generation, hshape] at h

namespace Estimation

/-- The paymaster that a stage names, followed by the data that it names. -/
def payment (e : Estimation) : Bytes :=
  Paymaster.payment { address := e.paymaster, data := e.paymasterData }

/-- What stages know together: of each field what was named last. -/
def layered (stages : List Estimation) : Estimation :=
  stages.foldl overlay .empty

/-- A stage leaves nothing out that is needed for the packed field, given what is known. -/
structure Completes (known e : Estimation) : Prop where
  /-- A paymaster comes with its data, unless there is none so far. -/
  data : e.paymaster ≠ none → e.paymasterData = none → known.paymasterData.getD [] = []
  /-- Data comes with its paymaster, unless there is no paymaster yet or the data is not new. -/
  paymaster : e.paymaster = none → known.paymaster ≠ none →
    ∀ data ∈ e.paymasterData, data = known.paymasterData.getD []

/-- All stages are complete, each given what is known when it comes. -/
def CompletedBy : Estimation → List Estimation → Prop
  | _, [] => True
  | known, e :: rest => known.Completes e ∧ (known.overlay e).CompletedBy rest

variable {known e : Estimation}

theorem payment_of_some {address : Address} (h : e.paymaster = some address) :
    e.payment = address.toBytes ++ e.paymasterData.getD [] := by
  simp [payment, Paymaster.payment, h]

theorem payment_of_none (h : e.paymaster = none) : e.payment = [] := by
  simp [payment, Paymaster.payment, h]

/-- A stage with a paymaster says all there is to say exactly if it is complete. -/
theorem payment_eq_overlay_iff_of_some {address : Address} (h : e.paymaster = some address) :
    e.payment = (known.overlay e).payment ↔ known.Completes e := by
  have hnamed : (known.overlay e).paymaster = some address := by simp [overlay, h]
  rw [payment_of_some h, payment_of_some hnamed, List.append_cancel_left_eq]
  show e.paymasterData.getD [] = (e.paymasterData.or known.paymasterData).getD [] ↔ _
  constructor
  · intro heq
    refine ⟨fun _ hnone => ?_, fun hnone => ?_⟩
    · simpa [hnone] using heq.symm
    · simp [h] at hnone
  · intro hcompletes
    cases hdata : e.paymasterData with
    | some data => rfl
    | none => exact (hcompletes.data (by simp [h]) hdata).symm

/-- After a stage without a paymaster there is as much to say as before exactly if the stage is
complete. -/
theorem payment_eq_overlay_iff_of_none (h : e.paymaster = none) :
    known.payment = (known.overlay e).payment ↔ known.Completes e := by
  have hpaymaster : (known.overlay e).paymaster = known.paymaster := by simp [overlay, h]
  cases hknown : known.paymaster with
  | none =>
    -- Without any paymaster there is nothing to say, whatever the data is.
    rw [payment_of_none hknown, payment_of_none (hpaymaster.trans hknown)]
    refine ⟨fun _ => ⟨fun hsome => ?_, fun _ hsome => ?_⟩, fun _ => rfl⟩
    · exact absurd h hsome
    · exact absurd hknown hsome
  | some address =>
    rw [payment_of_some hknown, payment_of_some (hpaymaster.trans hknown),
      List.append_cancel_left_eq]
    show known.paymasterData.getD [] = (e.paymasterData.or known.paymasterData).getD [] ↔ _
    constructor
    · intro heq
      refine ⟨fun hsome => absurd h hsome, fun _ _ data hdata => ?_⟩
      rw [Option.mem_def.mp hdata] at heq
      exact heq.symm
    · intro hcompletes
      cases hdata : e.paymasterData with
      | none => rfl
      | some data => exact (hcompletes.paymaster h (by simp [hknown]) data hdata).symm

end Estimation

/-! ### One stage -/

namespace UserOperation

variable {op : UserOperation} {known e : Estimation}

/-- A stage that names a paymaster replaces the packed field by what this stage alone says. -/
theorem payment_applied_v06 (hgeneration : op.generation = .v06)
    (hsplit : e.paymasterAndData = none) :
    (op.applied e).payment = if e.paymaster = none then op.payment else e.payment := by
  obtain ⟨sender, nonce, callData, gas, shape, signature⟩ := op
  cases shape with
  | v07 factory data paymaster => cases hgeneration
  | v06 code packed =>
    cases hnamed : e.paymaster with
    | none => simp [payment, applied, Shape.merge, hsplit, hnamed]
    | some address =>
      simp [payment, applied, Shape.merge, hsplit, hnamed, Estimation.payment_of_some hnamed]

/-- A packed field that is what is known so far is so after a stage exactly if the stage is
complete. -/
theorem payment_applied_iff (hgeneration : op.generation = .v06)
    (hpayment : op.payment = known.payment) (hsplit : e.paymasterAndData = none) :
    (op.applied e).payment = (known.overlay e).payment ↔ known.Completes e := by
  rw [payment_applied_v06 hgeneration hsplit, hpayment]
  cases hnamed : e.paymaster with
  | none => exact Estimation.payment_eq_overlay_iff_of_none hnamed
  | some address => exact Estimation.payment_eq_overlay_iff_of_some hnamed

end UserOperation

namespace SafeOperation

variable {s t : SafeOperation} {known e : Estimation}

/-- An operation of the second generation has the paymaster and the data that are known. -/
def Knows (t : SafeOperation) (known : Estimation) : Prop :=
  ∃ factory data p, t.operation.shape = .v07 factory data p ∧ p.address = known.paymaster
    ∧ p.data = known.paymasterData

theorem Knows.payment_eq (h : t.Knows known) : t.operation.payment = known.payment := by
  obtain ⟨factory, data, p, hshape, haddress, hdata⟩ := h
  simp [UserOperation.payment, Estimation.payment, Paymaster.payment, hshape, haddress, hdata]

/-- A stage with separate fields replaces each field on its own. -/
theorem Knows.step (h : t.Knows known) (htakes : (t.addEstimation e).1 = .ok ())
    (hsplit : e.paymasterAndData = none) : (t.step (.estimate e)).Knows (known.overlay e) := by
  obtain ⟨factory, data, p, hshape, haddress, hdata⟩ := h
  rw [step_estimate_of_ok htakes]
  refine ⟨factory, data, p.merge e, ?_, ?_, ?_⟩
  · simp [UserOperation.applied, Shape.merge, hshape]
  · simp [p.merge_of_split hsplit, Estimation.overlay, haddress]
  · simp [p.merge_of_split hsplit, Estimation.overlay, hdata]

/-! ### Runs -/

/-- At any time the second generation has what the stages have named last. -/
theorem Knows.run {es : List Estimation} (h : t.Knows known) (htakes : t.Accepts es)
    (hsplit : ∀ e ∈ es, e.paymasterAndData = none) :
    ∀ before, before <+: es →
      (t.run (before.map .estimate)).Knows (before.foldl Estimation.overlay known) := by
  induction es generalizing t known with
  | nil =>
    intro before hbefore
    rw [List.prefix_nil.mp hbefore]
    exact h
  | cons e rest ih =>
    obtain ⟨hfirst, hrest⟩ := List.forall_mem_cons.mp hsplit
    exact forall_prefix_cons_iff.mpr ⟨h, ih (h.step htakes.1 hfirst) htakes.2 hrest⟩

/-- Twins that have what is known so far agree after every stage exactly if all stages are
complete. -/
theorem Twins.payment_eq_iff {es : List Estimation} (htwins : Twins s t) (h : t.Knows known)
    (hpayment : s.operation.payment = known.payment) (htakes : t.Accepts es)
    (hsplit : ∀ e ∈ es, e.paymasterAndData = none) :
    (∀ before, before <+: es → (s.run (before.map .estimate)).operation.payment
        = (t.run (before.map .estimate)).operation.payment) ↔ known.CompletedBy es := by
  induction es generalizing s t known with
  | nil =>
    refine ⟨fun _ => trivial, fun _ before hbefore => ?_⟩
    rw [List.prefix_nil.mp hbefore]
    exact hpayment.trans h.payment_eq.symm
  | cons e rest ih =>
    obtain ⟨hfirst, hrest⟩ := List.forall_mem_cons.mp hsplit
    obtain ⟨htakes', htwins'⟩ := htwins.step htakes.1
    have hknows := h.step htakes.1 hfirst
    -- Completeness of the first stage is agreement right after it, which the rest starts from.
    have hstep : (s.step (.estimate e)).operation.payment = (known.overlay e).payment
        ↔ known.Completes e := by
      rw [step_estimate_of_ok htakes']
      exact UserOperation.payment_applied_iff htwins.generation hpayment hfirst
    rw [forall_prefix_cons_iff, Estimation.CompletedBy]
    constructor
    · rintro ⟨-, hagree⟩
      have hafter := (hagree [] List.nil_prefix).trans hknows.payment_eq
      exact ⟨hstep.mp hafter, (ih htwins' hknows hafter htakes.2 hrest).mp hagree⟩
    · rintro ⟨hcompletes, hcompleted⟩
      have hafter := hstep.mpr hcompletes
      exact ⟨hpayment.trans h.payment_eq.symm,
        (ih htwins' hknows hafter htakes.2 hrest).mpr hcompleted⟩

/-! ### Drafts -/

section

variable {d : Draft} {c c' : SigningContext}

/-- A draft starts without a paymaster. -/
theorem knows_ofDraft (hentry : c.entryPoint = EntryPoint.v07.address)
    (hmake : ofDraft d c = .ok t) : t.Knows .empty := by
  obtain ⟨generation, -, hgeneration, -, rfl⟩ := ofDraft_eq_ok_iff.mp hmake
  rw [hentry, EntryPoint.ofAddress_address] at hgeneration
  obtain rfl := Except.ok.inj hgeneration
  cases hdeployment : d.deployment with
  | none =>
    exact ⟨none, none, {}, by simp [UserOperation.shaped, Shape.ofDeployment, hdeployment], rfl, rfl⟩
  | some deployment =>
    exact ⟨some deployment.1, some deployment.2, {},
      by simp [UserOperation.shaped, Shape.ofDeployment, hdeployment], rfl, rfl⟩

theorem payment_ofDraft (hmake : ofDraft d c = .ok s) : s.operation.payment = [] := by
  obtain ⟨generation, -, -, -, rfl⟩ := ofDraft_eq_ok_iff.mp hmake
  cases generation <;> rcases hdeployment : d.deployment with _ | deployment <;>
    simp [UserOperation.payment, Paymaster.payment, UserOperation.shaped, Shape.ofDeployment,
      hdeployment]

/-- Stages without a packed paymaster are laid over a draft in both generations, and the second one
takes all of them. Then at any time the second one has the paymaster and the data that were named
last, and nothing while there is no paymaster. The packed field of the first one is the same after
every stage if and only if all stages are complete. -/
theorem payments_agree_iff {es : List Estimation} (hentry : c.entryPoint = EntryPoint.v06.address)
    (hentry' : c'.entryPoint = EntryPoint.v07.address) (hafter : c.validAfter = c'.validAfter)
    (huntil : c.validUntil = c'.validUntil) (hmake : ofDraft d c' = .ok t)
    (htakes : t.Accepts es) (hsplit : ∀ e ∈ es, e.paymasterAndData = none) :
    ∃ s, ofDraft d c = .ok s
      ∧ (∀ before, before <+: es → (t.run (before.map .estimate)).operation.payment
          = (Estimation.layered before).payment)
      ∧ ((∀ before, before <+: es →
            (s.run (before.map .estimate)).operation.paymasterAndData
              = (t.run (before.map .estimate)).operation.payment)
          ↔ Estimation.empty.CompletedBy es) := by
  obtain ⟨s, hmake', htwins⟩ := exists_twin_ofDraft hentry hafter huntil hmake
  have hknows := knows_ofDraft hentry' hmake
  refine ⟨s, hmake', fun before hbefore => ?_, ?_⟩
  · exact (hknows.run htakes hsplit before hbefore).payment_eq
  · have hpacked : ∀ before, before <+: es →
        (s.run (before.map .estimate)).operation.payment
          = (s.run (before.map .estimate)).operation.paymasterAndData := by
      intro before hbefore
      exact UserOperation.payment_of_generation_v06 ((htwins.run htakes).2 before hbefore).generation
    rw [← htwins.payment_eq_iff hknows (payment_ofDraft hmake') htakes hsplit]
    exact forall₂_congr fun before hbefore => by rw [hpacked before hbefore]

/-- A stage that names a paymaster and its data, one that names neither, and one that names both
anew. -/
theorem payments_agree_iff_sample :
    ∃ (d : Draft) (c c' : SigningContext) (s t : SafeOperation) (es : List Estimation),
      ofDraft d c = .ok s ∧ ofDraft d c' = .ok t ∧ es.length = 3 ∧ t.Accepts es
      ∧ (s.run (es.map .estimate)).operation.paymasterAndData
        = (t.run (es.map .estimate)).operation.payment := by
  let d : Draft := ⟨⟨1⟩, 3, [0x7b, 0xb3], some (⟨4⟩, [0x05]), .placeholder⟩
  let c : SigningContext := ⟨1, ⟨9⟩, EntryPoint.v06.address, 5, 8⟩
  let c' : SigningContext := ⟨1, ⟨9⟩, EntryPoint.v07.address, 5, 8⟩
  let es : List Estimation :=
    [{ paymaster := some ⟨5⟩, paymasterData := some [0xab] }, { callGas := some 7 },
      { paymaster := some ⟨6⟩, paymasterData := some [0xcd] }]
  obtain ⟨t, ht, htakes⟩ : ∃ t, ofDraft d c' = .ok t ∧ t.Accepts es :=
    ⟨_, rfl, rfl, rfl, rfl, trivial⟩
  have hsplit : ∀ e ∈ es, e.paymasterAndData = none := by decide
  have hafter : c.validAfter = c'.validAfter := rfl
  have huntil : c.validUntil = c'.validUntil := rfl
  have hcompleted : Estimation.empty.CompletedBy es :=
    ⟨⟨nofun, nofun⟩, ⟨nofun, nofun⟩, ⟨nofun, nofun⟩, trivial⟩
  obtain ⟨s, hs, -, hagree⟩ := payments_agree_iff rfl rfl hafter huntil ht htakes hsplit
  exact ⟨d, c, c', s, t, es, hs, ht, rfl, htakes, hagree.mpr hcompleted es (List.prefix_refl es)⟩

/-- After a stage that names a paymaster and its data comes one that names only other data, or
only the paymaster again. Both generations take it, and come apart: the first one has the old data
then, or none. -/
theorem exists_payment_ne :
    ∃ (d : Draft) (c c' : SigningContext) (s t : SafeOperation) (first : Estimation),
      c.entryPoint = EntryPoint.v06.address ∧ c'.entryPoint = EntryPoint.v07.address
      ∧ ofDraft d c = .ok s ∧ ofDraft d c' = .ok t
      ∧ first = { paymaster := some ⟨5⟩, paymasterData := some [0xab] }
      ∧ ∀ last ∈ [({ paymasterData := some [0xcd] } : Estimation), { paymaster := some ⟨5⟩ }],
        t.Accepts [first, last]
        ∧ (s.run [.estimate first, .estimate last]).operation.paymasterAndData
          ≠ (t.run [.estimate first, .estimate last]).operation.payment := by
  let d : Draft := ⟨⟨1⟩, 3, [0x7b, 0xb3], none, .placeholder⟩
  let c : SigningContext := ⟨1, ⟨9⟩, EntryPoint.v06.address, 0, 0⟩
  let c' : SigningContext := ⟨1, ⟨9⟩, EntryPoint.v07.address, 0, 0⟩
  refine ⟨d, c, c', _, _, _, rfl, rfl, rfl, rfl, rfl, ?_⟩
  simp only [List.forall_mem_cons]
  refine ⟨⟨⟨rfl, rfl, trivial⟩, ?_⟩, ⟨⟨rfl, rfl, trivial⟩, ?_⟩, List.forall_mem_nil _⟩
  · decide
  · decide

end

end SafeOperation

end SafeOps
