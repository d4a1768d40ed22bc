import SafeOps.Proofs.Signer

/-!
# `SafeOps.Proofs.Signer.Methods`: a key is asked through one method after the other

`Tries` follows the loop over the methods one step at a time. `InTurn` says the same of all that was
asked and answered: the methods come in the order of the list, each place of it once at most, and
what is not the answer that a method is lacking is the last answer and the outcome. That no method
is left is the outcome exactly if every place was asked and every answer was that
(`tries_iff_inTurn`, `InTurn.noMethod_iff`). A key may itself answer that it has no method. It is
then taken at its word, like with any other failure.

An operation is signed with a list that has every method once, the preferred one in front. So a
method that was not asked stands behind one that was answered, and no method is asked twice. The
main statement is `asked_in_turn`.
-/

set_option autoImplicit false

namespace SafeOps

/-! ### The order of methods -/

namespace SigningMethod

/-- Every method is tried once. -/
theorem strategies_perm (preferred : SigningMethod) : preferred.strategies.Perm all := by
  cases preferred <;> decide

theorem mem_strategies (preferred method : SigningMethod) : method ∈ preferred.strategies := by
  refine (strategies_perm preferred).mem_iff.mpr ?_
  cases method <;> decide

theorem nodup_strategies (preferred : SigningMethod) : preferred.strategies.Nodup :=
  (strategies_perm preferred).nodup_iff.mpr (by decide)

end SigningMethod

namespace Signer

/-- What a key answers when it is asked through a method. -/
abbrev KeyAnswer : Type :=
  Except SignerError Secp256k1.Signature

/-- The answer that the key lacks a method. -/
def Lacks (answer : KeyAnswer) : Prop :=
  ∃ method, answer = .error (.unsupported method)

/-- Methods that a key was asked through to sign a message, with its answers, as exchanges. -/
def consultation (data : TypedData) (asked : List (SigningMethod × KeyAnswer)) : List Exchange :=
  asked.map fun x => ⟨.typedSignature x.1 data, x.2⟩

/-- A key is asked through methods in their order until one is not lacking. -/
structure InTurn (address : Address) (methods : List SigningMethod)
    (asked : List (SigningMethod × KeyAnswer)) (r : KeyAnswer) : Prop where
  /-- The methods are asked in the order of the list, each place of it once at most. -/
  order : asked.map Prod.fst <+: methods
  /-- Only the answer that a method is lacking leads on. -/
  lacking : ∀ x ∈ asked.dropLast, Lacks x.2
  /-- Any other answer is the outcome as it is. -/
  answered : ∀ x ∈ asked, ¬ Lacks x.2 → r = x.2
  /-- Without another answer every place was asked, and there is no method. -/
  exhausted : (∀ x ∈ asked, Lacks x.2) →
    asked.map Prod.fst = methods ∧ r = .error (.noMethod address)

variable {address : Address} {data : TypedData} {methods : List SigningMethod}
  {asked : List (SigningMethod × KeyAnswer)} {r : KeyAnswer}

/-! ### Steps and the whole -/

theorem inTurn_nil_iff {methods : List SigningMethod} :
    InTurn address methods [] r ↔ methods = [] ∧ r = .error (.noMethod address) := by
  constructor
  · intro h
    obtain ⟨hmethods, hr⟩ := h.exhausted fun x hx => absurd hx List.not_mem_nil
    exact ⟨hmethods.symm, hr⟩
  · rintro ⟨rfl, rfl⟩
    exact ⟨List.prefix_refl [], fun x hx => absurd hx List.not_mem_nil,
      fun x hx => absurd hx List.not_mem_nil, fun _ => ⟨rfl, rfl⟩⟩

/-- A method that is lacking leads on to the rest of the list. -/
theorem inTurn_cons_of_lacks {x : SigningMethod × KeyAnswer} (hx : Lacks x.2) :
    InTurn address methods (x :: asked) r
      ↔ ∃ rest, methods = x.1 :: rest ∧ InTurn address rest asked r := by
  constructor
  · intro h
    obtain ⟨after, hafter⟩ := h.order
    refine ⟨asked.map Prod.fst ++ after, hafter.symm, List.prefix_append _ _, fun y hy => ?_,
      fun y hy => h.answered y (List.mem_cons_of_mem x hy), fun hlacks => ?_⟩
    · refine h.lacking y ?_
      rw [List.dropLast_cons_of_ne_nil (List.ne_nil_of_mem (List.dropLast_subset _ hy))]
      exact List.mem_cons_of_mem x hy
    · obtain ⟨hall, hr⟩ := h.exhausted (List.forall_mem_cons.mpr ⟨hx, hlacks⟩)
      refine ⟨?_, hr⟩
      rw [← hafter, List.map_cons, List.cons_append, List.cons.injEq] at hall
      exact hall.2
  · rintro ⟨rest, rfl, h⟩
    refine ⟨List.cons_prefix_cons.mpr ⟨rfl, h.order⟩, fun y hy => ?_, fun y hy hlacks => ?_,
      fun hlacks => ?_⟩
    · cases asked with
      | nil => exact absurd hy List.not_mem_nil
      | cons z asked =>
        rcases List.mem_cons.mp hy with rfl | hy
        · exact hx
        · exact h.lacking y hy
    · rcases List.mem_cons.mp hy with rfl | hy
      · exact absurd hx hlacks
      · exact h.answered y hy hlacks
    · obtain ⟨hall, hr⟩ := h.exhausted fun y hy => hlacks y (List.mem_cons_of_mem x hy)
      exact ⟨congrArg (x.1 :: ·) hall, hr⟩

/-- A method that is not lacking is the last one. -/
theorem inTurn_cons_of_not_lacks {x : SigningMethod × KeyAnswer} (hx : ¬ Lacks x.2) :
    InTurn address methods (x :: asked) r
      ↔ asked = [] ∧ r = x.2 ∧ ∃ rest, methods = x.1 :: rest := by
  constructor
  · intro h
    -- With more behind it the method would be one that leads on.
    have hasked : asked = [] := Decidable.byContradiction fun hne => hx <| h.lacking x <| by
      rw [List.dropLast_cons_of_ne_nil hne]
      exact List.mem_cons_self
    subst hasked
    obtain ⟨rest, hrest⟩ := h.order
    exact ⟨rfl, h.answered x List.mem_cons_self hx, rest, hrest.symm⟩
  · rintro ⟨rfl, rfl, rest, rfl⟩
    refine ⟨List.cons_prefix_cons.mpr ⟨rfl, List.nil_prefix⟩,
      fun y hy => absurd hy List.not_mem_nil, fun y hy _ => ?_, fun h => ?_⟩
    · rw [List.mem_singleton.mp hy]
    · exact absurd (h x List.mem_cons_self) hx

/-- The loop goes on as long as methods are lacking, and in no other way. -/
theorem tries_iff_inTurn {t : List Exchange} :
    Tries address data methods t r
      ↔ ∃ asked, t = consultation data asked ∧ InTurn address methods asked r := by
  constructor
  · intro h
    induction h with
    | exhausted => exact ⟨[], rfl, inTurn_nil_iff.mpr ⟨rfl, rfl⟩⟩
    | @lacking method lacked rest _ _ _ ih =>
      obtain ⟨asked, rfl, hasked⟩ := ih
      exact ⟨(method, .error (.unsupported lacked)) :: asked, rfl,
        (inTurn_cons_of_lacks ⟨lacked, rfl⟩).mpr ⟨rest, rfl, hasked⟩⟩
    | @answered method rest answer hanswer =>
      exact ⟨[(method, answer)], rfl,
        (inTurn_cons_of_not_lacks (not_exists.mpr hanswer)).mpr ⟨rfl, rfl, rest, rfl⟩⟩
  · rintro ⟨asked, rfl, h⟩
    induction asked generalizing methods with
    | nil =>
      obtain ⟨rfl, rfl⟩ := inTurn_nil_iff.mp h
      exact .exhausted
    | cons x asked ih =>
      obtain ⟨method, answer⟩ := x
      by_cases hx : Lacks answer
      · obtain ⟨rest, rfl, hrest⟩ := (inTurn_cons_of_lacks hx).mp h
        obtain ⟨lacked, rfl⟩ := hx
        exact .lacking (ih hrest)
      · obtain ⟨rfl, rfl, rest, rfl⟩ := (inTurn_cons_of_not_lacks hx).mp h
        exact .answered (not_exists.mp hx)

/-- That there is no method is the outcome, and not what the key itself has answered, exactly if
every place was asked and every method was lacking. -/
theorem InTurn.noMethod_iff (h : InTurn address methods asked r) :
    (r = .error (.noMethod address) ∧ ∀ x ∈ asked, x.2 ≠ r)
      ↔ asked.map Prod.fst = methods ∧ ∀ x ∈ asked, Lacks x.2 := by
  constructor
  · rintro ⟨-, hanswers⟩
    have hlacks : ∀ x ∈ asked, Lacks x.2 := fun x hx =>
      Classical.byContradiction fun hlacks => hanswers x hx (h.answered x hx hlacks).symm
    exact ⟨(h.exhausted hlacks).1, hlacks⟩
  · rintro ⟨-, hlacks⟩
    obtain ⟨-, rfl⟩ := h.exhausted hlacks
    refine ⟨rfl, fun x hx heq => ?_⟩
    obtain ⟨lacked, hlacked⟩ := hlacks x hx
    rw [hlacked] at heq
    cases heq

/-- A method of the list that was not asked stands behind one that is not lacking. -/
theorem InTurn.exists_answer (h : InTurn address methods asked r) {method : SigningMethod}
    (hmethod : method ∈ methods) (hnot : method ∉ asked.map Prod.fst) :
    ∃ before last, asked = before ++ [last] ∧ (∀ x ∈ before, Lacks x.2) ∧ ¬ Lacks last.2
      ∧ r = last.2 := by
  have hsome : ¬ ∀ x ∈ asked, Lacks x.2 := fun hlacks =>
    hnot ((h.exhausted hlacks).1 ▸ hmethod)
  obtain ⟨x, hrest⟩ := Classical.not_forall.mp hsome
  obtain ⟨hx, hlacks⟩ := Classical.not_imp.mp hrest
  have hsplit := List.dropLast_concat_getLast (List.ne_nil_of_mem hx)
  -- Everything before the last answer is lacking, so the answer that is not is the last one.
  have hlast : x = asked.getLast (List.ne_nil_of_mem hx) := by
    rw [← hsplit, List.mem_append, List.mem_singleton] at hx
    exact hx.resolve_left fun hbefore => hlacks (h.lacking x hbefore)
  exact ⟨asked.dropLast, x, hlast ▸ hsplit.symm, h.lacking, hlacks, h.answered x hx hlacks⟩

/-! ### Signing -/

/-- A key is not asked to sign an operation that has no message. -/
theorem ends_sign_key_of_error {op : SafeOperation} {e : OperationError}
    (h : op.typedData = .error e) {preferred : SigningMethod} {sharedSigner : Address}
    {t : List Exchange} {r : Except SignerError OwnerSignature} :
    ((key address).sign op preferred sharedSigner).Ends t r
      ↔ t = [] ∧ r = .error (.operation e) := by
  rw [sign, h]
  exact Attempt.ends_error_bind_iff

/-- A key is asked to sign a message through the methods of a list in their order, each place of it
once at most, until the first answer that is not that the method is lacking. This answer is the
outcome; without one there is no method. An operation is signed with a list that has every method
once, the preferred one in front. So no method is asked twice, nothing is asked after a failure, and
a method that was not asked stands behind one that is not lacking. For an operation without a
message nothing is asked at all. -/
theorem asked_in_turn (address : Address) (data : TypedData) :
    (∀ methods t r, (signTypedData address data methods).Ends t r ↔
        ∃ asked, t = consultation data asked ∧ InTurn address methods asked r)
      ∧ (∀ methods asked r, InTurn address methods asked r →
        ((r = .error (.noMethod address) ∧ ∀ x ∈ asked, x.2 ≠ r)
          ↔ asked.map Prod.fst = methods ∧ ∀ x ∈ asked, Lacks x.2))
      ∧ (∀ preferred : SigningMethod, preferred.strategies.Perm SigningMethod.all
        ∧ preferred.strategies.head? = some preferred)
      ∧ (∀ (op : SafeOperation) preferred sharedSigner t r, op.typedData = .ok data →
        ((key address).sign op preferred sharedSigner).Ends t r →
        ∃ asked answer, t = consultation data asked
          ∧ InTurn address preferred.strategies asked answer ∧ r = answer.map (.ofKey address)
          ∧ (asked.map Prod.fst).Nodup
          ∧ ∀ method, method ∉ asked.map Prod.fst → ∃ before last, asked = before ++ [last]
            ∧ (∀ x ∈ before, Lacks x.2) ∧ ¬ Lacks last.2 ∧ answer = last.2)
      ∧ ∀ (op : SafeOperation) e preferred sharedSigner t r, op.typedData = .error e →
        (((key address).sign op preferred sharedSigner).Ends t r
          ↔ t = [] ∧ r = .error (.operation e)) := by
  refine ⟨fun methods t r => ends_signTypedData_iff.trans tries_iff_inTurn,
    fun methods asked r h => h.noMethod_iff,
    fun preferred => ⟨preferred.strategies_perm, rfl⟩, ?_,
    fun op e preferred sharedSigner t r h => ends_sign_key_of_error h⟩
  intro op preferred sharedSigner t r htyped hrun
  obtain ⟨answer, htries, rfl⟩ := (ends_sign_key_iff htyped).mp hrun
  obtain ⟨asked, rfl, h⟩ := tries_iff_inTurn.mp htries
  exact ⟨asked, answer, rfl, h, rfl, h.order.sublist.nodup preferred.nodup_strategies,
    fun method => h.exists_answer (preferred.mem_strategies method)⟩

/-- A key that has neither the preferred method nor the newest one fails with the last one. -/
theorem asked_in_turn_failing :
    ∃ (op : SafeOperation) (data : TypedData) (t : List Exchange), op.typedData = .ok data
      ∧ t = consultation data [(.v3, .error (.unsupported .v3)), (.v4, .error (.unsupported .v4)),
          (.legacy, .error (.failed "locked"))]
      ∧ ((key ⟨7⟩).sign op .v3 ⟨1⟩).Ends t (.error (.failed "locked"))
      ∧ ∃ asked, t = consultation data asked ∧ (asked.map Prod.fst).Nodup
        ∧ InTurn ⟨7⟩ [.v3, .v4, .legacy] asked (.error (.failed "locked")) := by
  obtain ⟨op, hmake⟩ : ∃ op, Origin.sample.make = .ok op := ⟨_, rfl⟩
  obtain ⟨data, htyped⟩ := SafeOperation.exists_typedData hmake
  let asked : List (SigningMethod × KeyAnswer) :=
    [(.v3, .error (.unsupported .v3)), (.v4, .error (.unsupported .v4)),
      (.legacy, .error (.failed "locked"))]
  have htries : Tries ⟨7⟩ data (SigningMethod.strategies .v3) (consultation data asked)
      (.error (.failed "locked")) := .lacking (.lacking (.answered nofun))
  have hrun : ((key ⟨7⟩).sign op .v3 ⟨1⟩).Ends (consultation data asked)
      (.error (.failed "locked")) := (ends_sign_key_iff htyped).mpr ⟨_, htries, rfl⟩
  obtain ⟨-, -, -, hsign, -⟩ := asked_in_turn ⟨7⟩ data
  obtain ⟨asked', answer, hasked, hturn, hanswer, hnodup, -⟩ := hsign op .v3 ⟨1⟩ _ _ htyped hrun
  -- A failure of the whole is a failure of the key.
  cases answer with
  | ok signature => cases hanswer
  | error e =>
    cases hanswer
    exact ⟨op, data, _, htyped, rfl, hrun, asked', hasked, hnodup, hturn⟩

end Signer

end SafeOps
