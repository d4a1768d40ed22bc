import Mathlib.Data.List.Forall2

/-!
# `SafeOps.Proofs.Failable`: when a chain of steps succeeds, and how it fails

Readers and checks are chains of steps, each of which may fail. Such a chain succeeds exactly
if every step does. The lemmas take a success apart into those of its steps, so that proofs
need not look into the chain.

A chain fails with the failure of its first step that fails. `failure?` is that failure; where later
steps fail or not whatever the earlier ones gave, it is found step by step (`failure?_bind`).
-/

set_option autoImplicit false

namespace SafeOps

variable {ε ε' α β : Type}

/-- Two steps succeed if the first one does and the second one does with its value. -/
theorem bind_eq_ok_iff {x : Except ε α} {f : α → Except ε β} {b : β} :
    x >>= f = .ok b ↔ ∃ a, x = .ok a ∧ f a = .ok b := by
  cases x <;> simp [bind, Except.bind]

theorem pure_eq_ok_iff {a b : α} : (pure a : Except ε α) = .ok b ↔ a = b := by
  simp [pure, Except.pure]

theorem map_eq_ok_iff {x : Except ε α} {f : α → β} {b : β} :
    x.map f = .ok b ↔ ∃ a, x = .ok a ∧ f a = b := by
  cases x <;> simp [Except.map]

theorem mapError_eq_ok_iff {x : Except ε α} {f : ε → ε'} {a : α} :
    x.mapError f = .ok a ↔ x = .ok a := by
  constructor
  · intro h
    cases x with
    | ok b => exact congrArg Except.ok (Except.ok.inj h)
    | error e => cases h
  · rintro rfl
    rfl

theorem toOption_eq_some_iff {x : Except ε α} {a : α} : x.toOption = some a ↔ x = .ok a := by
  cases x <;> simp [Except.toOption]

/-- Steps over a list that all succeed give the list of their values. -/
theorem mapM_eq_pure_map {m : Type → Type} [Monad m] [LawfulMonad m] {f : α → m β} {g : α → β}
    {l : List α} (h : ∀ a ∈ l, f a = pure (g a)) : l.mapM f = pure (l.map g) := by
  induction l with
  | nil => exact List.mapM_nil
  | cons a rest ih =>
    have hrest := ih fun b hb => h b (List.mem_cons_of_mem a hb)
    rw [List.mapM_cons, h a List.mem_cons_self, hrest, pure_bind, pure_bind, List.map_cons]

/-- Steps over a list succeed exactly if every step does. -/
theorem mapM_eq_ok_iff {f : α → Except ε β} {l : List α} {bs : List β} :
    l.mapM f = .ok bs ↔ List.Forall₂ (fun b a => f a = .ok b) bs l := by
  induction l generalizing bs with
  | nil => rw [List.mapM_nil, pure_eq_ok_iff, List.forall₂_nil_right_iff, eq_comm]
  | cons a rest ih =>
    simp only [List.mapM_cons, bind_eq_ok_iff, pure_eq_ok_iff, List.forall₂_cons_right_iff, ih]
    constructor
    · rintro ⟨b, hb, bs', hbs', rfl⟩
      exact ⟨b, bs', hb, hbs', rfl⟩
    · rintro ⟨b, bs', hb, hbs', rfl⟩
      exact ⟨b, hb, bs', hbs', rfl⟩

section

variable {f : α → Option β} {l : List α} {bs : List β}

theorem mapM_cons_eq_some_iff {a : α} :
    (a :: l).mapM f = some bs ↔ ∃ b rest, f a = some b ∧ l.mapM f = some rest ∧ bs = b :: rest := by
  simp only [List.mapM_cons, Option.bind_eq_bind, Option.bind_eq_some_iff, Option.pure_def,
    Option.some.injEq]
  constructor
  · rintro ⟨b, hb, rest, hrest, rfl⟩
    exact ⟨b, rest, hb, hrest, rfl⟩
  · rintro ⟨b, rest, hb, hrest, rfl⟩
    exact ⟨b, hb, rest, hrest, rfl⟩

/-- Steps over a list give values exactly if every step does. -/
theorem mapM_eq_some_iff : l.mapM f = some bs ↔ List.Forall₂ (fun b a => f a = some b) bs l := by
  constructor
  · intro h
    induction l generalizing bs with
    | nil =>
      obtain rfl := Option.some.inj h
      exact .nil
    | cons a l ih =>
      obtain ⟨b, rest, hb, hrest, rfl⟩ := mapM_cons_eq_some_iff.mp h
      exact .cons hb (ih hrest)
  · intro h
    induction h with
    | nil => rfl
    | cons hb _ ih => exact mapM_cons_eq_some_iff.mpr ⟨_, _, hb, ih, rfl⟩

/-- Each value is that of a step. -/
theorem exists_of_mem_of_mapM (h : l.mapM f = some bs) {b : β} (hb : b ∈ bs) :
    ∃ a ∈ l, f a = some b := by
  induction l generalizing bs with
  | nil =>
    cases h
    cases hb
  | cons a l ih =>
    obtain ⟨b', rest, hb', hrest, rfl⟩ := mapM_cons_eq_some_iff.mp h
    rcases List.mem_cons.mp hb with rfl | hmem
    · exact ⟨a, List.mem_cons_self, hb'⟩
    · obtain ⟨a', ha', hvalue⟩ := ih hrest hmem
      exact ⟨a', List.mem_cons_of_mem a ha', hvalue⟩

/-- Each step has a value. -/
theorem exists_of_mapM_of_mem (h : l.mapM f = some bs) {a : α} (ha : a ∈ l) :
    ∃ b ∈ bs, f a = some b := by
  induction l generalizing bs with
  | nil => cases ha
  | cons a' l ih =>
    obtain ⟨b', rest, hb', hrest, rfl⟩ := mapM_cons_eq_some_iff.mp h
    rcases List.mem_cons.mp ha with rfl | hmem
    · exact ⟨b', List.mem_cons_self, hb'⟩
    · obtain ⟨b, hb, hvalue⟩ := ih hrest hmem
      exact ⟨b, List.mem_cons_of_mem b' hb, hvalue⟩

end

/-! ### Failures -/

/-- What a step fails with, if it fails. -/
def failure? : Except ε α → Option ε
  | .error e => some e
  | .ok _ => none

theorem failure?_eq_some_iff {x : Except ε α} {e : ε} : failure? x = some e ↔ x = .error e := by
  cases x <;> simp [failure?]

theorem failure?_map {x : Except ε α} {f : α → β} : failure? (x.map f) = failure? x := by
  cases x <;> rfl

theorem failure?_mapError {x : Except ε α} {f : ε → ε'} :
    failure? (x.mapError f) = (failure? x).map f := by
  cases x <;> rfl

/-- Putting a value together is no step that fails. -/
theorem failure?_bind_pure {x : Except ε α} {f : α → β} :
    failure? (x >>= fun a => pure (f a)) = failure? x := by
  cases x <;> rfl

/-- The first of two steps that fails is the failure of both. -/
theorem failure?_bind {x : Except ε α} {f : α → Except ε β} {rest : Option ε}
    (hf : ∀ a, failure? (f a) = rest) : failure? (x >>= f) = (failure? x).or rest := by
  cases x with
  | error e => rfl
  | ok a => exact hf a

end SafeOps
