import SafeOps.Proofs.SafeOperation.Digest
import SafeOps.Proofs.UserOperation.Codec

/-!
# `SafeOps.Proofs.SafeOperation.Generations`: one draft in both generations

The two generations of entry points have operations of different shapes. They also treat
estimations differently: one takes whatever comes, the other checks the new fields before it takes
any of them. Apart from who pays, none of this can be told from outside. Two operations of one
draft are `Alike` as long as the one of the second generation takes its estimations: they have the
same fields, and the messages that owners sign have the same members with the same values, except
for the paymaster and the entry point.

`Twins` is the invariant behind this. An estimation that one twin takes is taken by the other, and
they stay twins (`Twins.step`). `alike_run` is the statement for whole runs.
-/

set_option autoImplicit false

namespace SafeOps

namespace UserOperation

variable {op op' : UserOperation} {c c' : SigningContext}

/-! ### Messages -/

/-- The generations put the gas fields into different order. -/
theorem recordGasMessage_perm (hgas : op.gas = op'.gas) :
    op.recordGasMessage.Perm op'.recordGasMessage := by
  -- Two neighbours change places at the front, and two at the end.
  have hswaps : ∀ a b m x y : String × Json, [a, b, m, x, y].Perm [b, a, m, y, x] :=
    fun a b m x y => (List.Perm.swap b a [m, x, y]).trans
      ((((List.Perm.swap y x []).cons m).cons a).cons b)
  unfold recordGasMessage
  rw [hgas]
  cases op.generation with
  | v06 =>
    cases op'.generation with
    | v06 => exact List.Perm.refl _
    | v07 => exact hswaps _ _ _ _ _
  | v07 =>
    cases op'.generation with
    | v06 => exact hswaps _ _ _ _ _
    | v07 => exact List.Perm.refl _

theorem nodup_recordGasMessage (op : UserOperation) :
    (op.recordGasMessage.map Prod.fst).Nodup := by
  unfold recordGasMessage
  split <;> simp

/-- The members of the message that are not alike in both generations. -/
def exemptMembers : List String :=
  ["paymasterAndData", "entryPoint"]

/-- Messages of operations with the same fields agree, except for the paymaster and the entry
point. -/
theorem agreesBut_recordMessage (hsender : op.sender = op'.sender) (hnonce : op.nonce = op'.nonce)
    (hinitCode : op.initCode = op'.initCode) (hcallData : op.callData = op'.callData)
    (hgas : op.gas = op'.gas) (hafter : c.validAfter = c'.validAfter)
    (huntil : c.validUntil = c'.validUntil) :
    (op.recordMessage c).sorted.AgreesBut exemptMembers (op'.recordMessage c').sorted := by
  have hperm := recordGasMessage_perm hgas
  refine Json.agreesBut_sorted (fun key => ?_) fun key hkey => ?_
  · simp only [List.map_append, List.mem_append, (hperm.map Prod.fst).mem_iff, List.map_cons,
      List.map_nil]
  · obtain ⟨hpaymaster, hentry⟩ : key ≠ "paymasterAndData" ∧ key ≠ "entryPoint" := by
      simpa [exemptMembers] using hkey
    -- Behind the gas fields only the exempt members differ, and these are not looked up.
    rw [Json.lookup_append, Json.lookup_append, Json.lookup_append, Json.lookup_append,
      Json.lookup_eq_of_perm op.nodup_recordGasMessage hperm, hsender, hnonce, hinitCode,
      hcallData, hafter, huntil]
    simp only [Json.lookup_cons, hpaymaster.symm, hentry.symm, if_false, Option.or_none]

end UserOperation

namespace SafeOperation

variable {s t : SafeOperation} {e : Estimation}

/-- Two operations mean the same to owners, up to who pays and where it is submitted. -/
structure Alike (s t : SafeOperation) : Prop where
  sender : s.operation.sender = t.operation.sender
  nonce : s.operation.nonce = t.operation.nonce
  callData : s.operation.callData = t.operation.callData
  initCode : s.operation.initCode = t.operation.initCode
  gas : s.operation.gas = t.operation.gas
  messages : ∃ data data', s.typedData = .ok data ∧ t.typedData = .ok data'
    ∧ data.message.AgreesBut UserOperation.exemptMembers data'.message

/-! ### Twins -/

/-- An operation of the first generation that nobody has signed, and one that has the same fields
and the same span of time. -/
structure Twins (s t : SafeOperation) : Prop where
  generation : s.operation.generation = .v06
  fresh : s.signatures = .empty
  wellFormed_left : s.WellFormed
  wellFormed_right : t.WellFormed
  validAfter : s.context.validAfter = t.context.validAfter
  validUntil : s.context.validUntil = t.context.validUntil
  sender : s.operation.sender = t.operation.sender
  nonce : s.operation.nonce = t.operation.nonce
  callData : s.operation.callData = t.operation.callData
  initCode : s.operation.initCode = t.operation.initCode
  gas : s.operation.gas = t.operation.gas

theorem Twins.alike (h : Twins s t) : s.Alike t where
  sender := h.sender
  nonce := h.nonce
  callData := h.callData
  initCode := h.initCode
  gas := h.gas
  messages := ⟨_, _, (typedData_of_wellFormed h.wellFormed_left).1,
    (typedData_of_wellFormed h.wellFormed_right).1,
    UserOperation.agreesBut_recordMessage h.sender h.nonce h.initCode h.callData h.gas h.validAfter
      h.validUntil⟩

/-- What the second twin takes is taken by the first, and they stay twins. -/
theorem Twins.step (h : Twins s t) (htakes : (t.addEstimation e).1 = .ok ()) :
    (s.addEstimation e).1 = .ok () ∧ Twins (s.step (.estimate e)) (t.step (.estimate e)) := by
  have htakes' := addEstimation_of_generation_v06 h.generation h.fresh e
  refine ⟨htakes', ?_⟩
  have hleft := wellFormed_step s (.estimate e) h.wellFormed_left
  have hright := wellFormed_step t (.estimate e) h.wellFormed_right
  rw [step_estimate_of_ok htakes'] at hleft ⊢
  rw [step_estimate_of_ok htakes] at hright ⊢
  exact {
    generation := (UserOperation.generation_applied _ e).trans h.generation
    fresh := h.fresh
    wellFormed_left := hleft
    wellFormed_right := hright
    validAfter := h.validAfter
    validUntil := h.validUntil
    sender := h.sender
    nonce := h.nonce
    callData := h.callData
    initCode := by
      rw [UserOperation.initCode_applied, UserOperation.initCode_applied]
      exact h.initCode
    gas := congrArg (Gas.merge · e) h.gas }

/-- Twins stay twins for as long as the second one takes its estimations. -/
theorem Twins.run {es : List Estimation} (h : Twins s t) (htakes : t.Accepts es) :
    s.Accepts es ∧ ∀ before, before <+: es →
      Twins (s.run (before.map .estimate)) (t.run (before.map .estimate)) := by
  induction es generalizing s t with
  | nil =>
    refine ⟨trivial, fun before hbefore => ?_⟩
    rw [List.prefix_nil.mp hbefore]
    exact h
  | cons e rest ih =>
    obtain ⟨hfirst, hrest⟩ := htakes
    obtain ⟨htakes', htwins⟩ := h.step hfirst
    obtain ⟨haccepts, hruns⟩ := ih htwins hrest
    exact ⟨⟨htakes', haccepts⟩, forall_prefix_cons_iff.mpr ⟨h, hruns⟩⟩

/-! ### Drafts -/

section

variable {d : Draft} {c c' : SigningContext}

/-- A draft that is taken in any generation is taken in the first, as its twin. -/
theorem exists_twin_ofDraft (hentry : c.entryPoint = EntryPoint.v06.address)
    (hafter : c.validAfter = c'.validAfter) (huntil : c.validUntil = c'.validUntil)
    (hmake : ofDraft d c' = .ok t) : ∃ s, ofDraft d c = .ok s ∧ Twins s t := by
  have hright : t.WellFormed := wellFormed_run (o := .draft d c') hmake []
  obtain ⟨generation, hsound, -, -, rfl⟩ := ofDraft_eq_ok_iff.mp hmake
  have hsound' : c.Sound :=
    ⟨hafter ▸ hsound.validAfter_lt, huntil ▸ hsound.validUntil_lt,
      hafter ▸ huntil ▸ hsound.ordered⟩
  have hgeneration : EntryPoint.ofAddress c.entryPoint = .ok .v06 := by
    rw [hentry]
    exact EntryPoint.ofAddress_address .v06
  have hmake' : ofDraft d c = .ok ⟨UserOperation.shaped .v06 d, c, .empty⟩ :=
    ofDraft_eq_ok_iff.mpr ⟨.v06, hsound', hgeneration,
      UserOperation.fits_of_generation_v06 (UserOperation.generation_shaped .v06 d), rfl⟩
  refine ⟨_, hmake', ?_⟩
  exact {
    generation := UserOperation.generation_shaped .v06 d
    fresh := rfl
    wellFormed_left := wellFormed_run (o := .draft d c) hmake' []
    wellFormed_right := hright
    validAfter := hafter
    validUntil := huntil
    sender := rfl
    nonce := rfl
    callData := rfl
    initCode := by rw [UserOperation.initCode_shaped, UserOperation.initCode_shaped]
    gas := rfl }

/-- A draft that is taken in the second generation is taken in the first, with the same span of
time on any chain and for any module. Then every estimation that the second operation takes is
taken by the first, and after each of them the two are alike. -/
theorem alike_run {es : List Estimation} (hentry : c.entryPoint = EntryPoint.v06.address)
    (hentry' : c'.entryPoint = EntryPoint.v07.address) (hafter : c.validAfter = c'.validAfter)
    (huntil : c.validUntil = c'.validUntil) (hmake : ofDraft d c' = .ok t)
    (htakes : t.Accepts es) :
    ∃ s, ofDraft d c = .ok s ∧ s.operation.generation = .v06 ∧ t.operation.generation = .v07
      ∧ s.Accepts es ∧ ∀ before, before <+: es →
        (s.run (before.map .estimate)).Alike (t.run (before.map .estimate)) := by
  obtain ⟨s, hmake', htwins⟩ := exists_twin_ofDraft hentry hafter huntil hmake
  obtain ⟨haccepts, hruns⟩ := htwins.run htakes
  have hgeneration : EntryPoint.ofAddress t.context.entryPoint = .ok .v07 := by
    obtain ⟨-, -, -, -, rfl⟩ := ofDraft_eq_ok_iff.mp hmake
    rw [hentry']
    exact EntryPoint.ofAddress_address .v07
  have hright : t.operation.generation = .v07 :=
    Except.ok.inj (htwins.wellFormed_right.generation.symm.trans hgeneration)
  exact ⟨s, hmake', htwins.generation, hright, haccepts,
    fun before hbefore => (hruns before hbefore).alike⟩

/-- A draft with a deployment and two estimations. The second one brings a packed paymaster that
is too short for the second generation. -/
theorem alike_run_sample :
    ∃ (d : Draft) (c c' : SigningContext) (s t : SafeOperation) (es : List Estimation),
      ofDraft d c = .ok s ∧ ofDraft d c' = .ok t ∧ es.length = 2 ∧ t.Accepts es ∧ s.Accepts es
      ∧ (s.run (es.map .estimate)).Alike (t.run (es.map .estimate)) := by
  let d : Draft := ⟨⟨1⟩, 3, [0x7b, 0xb3], some (⟨4⟩, [0x05]), .placeholder⟩
  let c : SigningContext := ⟨1, ⟨9⟩, EntryPoint.v06.address, 5, 8⟩
  let c' : SigningContext := ⟨2, ⟨7⟩, EntryPoint.v07.address, 5, 8⟩
  let es : List Estimation :=
    [{ callGas := some 7, paymaster := some ⟨5⟩ },
      { maxFee := some 9, paymasterAndData := some [0x01] }]
  obtain ⟨t, ht, htakes⟩ : ∃ t, ofDraft d c' = .ok t ∧ t.Accepts es :=
    ⟨_, rfl, rfl, rfl, trivial⟩
  have hafter : c.validAfter = c'.validAfter := rfl
  have huntil : c.validUntil = c'.validUntil := rfl
  obtain ⟨s, hs, -, -, haccepts, hruns⟩ := alike_run rfl rfl hafter huntil ht htakes
  exact ⟨d, c, c', s, t, es, hs, ht, rfl, htakes, haccepts, hruns es (List.prefix_refl es)⟩

end

end SafeOperation

end SafeOps
