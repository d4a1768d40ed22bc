import SafeOps.Proofs.UserOperation.Fits
import SafeOps.SafeOperation

/-!
# `SafeOps.Proofs.SafeOperation.Run`: changes of an operation

While it is on its way an operation is changed: estimations are put in, signatures are added,
all signatures are dropped. `run` makes such changes in order. A refused estimation is a
change like any other: `step` goes on with the operation as `addEstimation` leaves it.

* `addEstimation_cases`: all an estimation can do. An operation that changes had no
  signatures, and its new fields fit.
* `run_induction`: what survives every change holds after all of them.
* `Accepts`: estimations that are all taken. Each of them then replaces the fields it knows
  (`step_estimate_of_ok`), and an operation of the first generation takes anything while nobody
  has signed it (`addEstimation_of_generation_v06`).
-/

set_option autoImplicit false

namespace SafeOps.SafeOperation

/-- A change of an operation. -/
inductive Change where
  | estimate (e : Estimation)
  | sign (signature : OwnerSignature)
  | clear
  deriving DecidableEq, Repr

def step (s : SafeOperation) : Change → SafeOperation
  | .estimate e => (s.addEstimation e).2
  | .sign signature => s.addSignature signature
  | .clear => s.clearSignatures

/-- The operation after changes, made one after another. -/
def run (s : SafeOperation) (changes : List Change) : SafeOperation :=
  changes.foldl step s

@[simp] theorem run_nil (s : SafeOperation) : s.run [] = s := rfl

@[simp] theorem run_append (s : SafeOperation) (before after : List Change) :
    s.run (before ++ after) = (s.run before).run after :=
  List.foldl_append

theorem run_concat (s : SafeOperation) (changes : List Change) (c : Change) :
    s.run (changes ++ [c]) = (s.run changes).step c := by
  rw [run_append]
  rfl

/-- What holds of an operation and survives every change holds after all changes. -/
theorem run_induction {P : SafeOperation → Prop} (hstep : ∀ s c, P s → P (s.step c))
    {s : SafeOperation} (h : P s) (changes : List Change) : P (s.run changes) := by
  induction changes generalizing s with
  | nil => exact h
  | cons c rest ih => exact ih (hstep s c h)

/-! ### Estimations -/

/-- All an estimation can do. One that knows nothing changes nothing. Any other is refused
if there are signatures or if it does not fit, which changes nothing either. Else its
fields are in the operation, which fits. -/
theorem addEstimation_cases (s : SafeOperation) (e : Estimation) :
    (s.addEstimation e = (.ok (), s) ∧ e.isEmpty = true) ∨
      (∃ error, s.addEstimation e = (.error error, s)) ∨
      (s.addEstimation e = (.ok (), { s with operation := s.operation.applied e })
        ∧ s.signatures.isEmpty = true ∧ (s.operation.applied e).Fits) := by
  unfold addEstimation
  by_cases hempty : e.isEmpty = true
  · exact Or.inl ⟨if_pos hempty, hempty⟩
  · rw [if_neg hempty]
    by_cases hsigned : s.signatures.isEmpty = true
    · rw [if_neg (by simp [hsigned])]
      rcases s.operation.merge_cases e with ⟨hm, hfits⟩ | ⟨fault, hm, -, -⟩
      · exact Or.inr (Or.inr ⟨by rw [hm]; rfl, hsigned, hfits⟩)
      · exact Or.inr (Or.inl ⟨.tooWide fault, by rw [hm]; rfl⟩)
    · rw [if_pos (by simpa using hsigned)]
      exact Or.inr (Or.inl ⟨_, rfl⟩)

/-- The operation after an estimation is the one before, or nobody has signed it and it has
the fields of the estimation, which fit. -/
theorem step_estimate_cases (s : SafeOperation) (e : Estimation) :
    s.step (.estimate e) = s ∨
      (s.step (.estimate e) = { s with operation := s.operation.applied e }
        ∧ s.signatures.isEmpty = true ∧ (s.operation.applied e).Fits) := by
  rcases s.addEstimation_cases e with ⟨h, -⟩ | ⟨error, h⟩ | ⟨h, hrest⟩
  · exact Or.inl (congrArg Prod.snd h)
  · exact Or.inl (congrArg Prod.snd h)
  · exact Or.inr ⟨congrArg Prod.snd h, hrest⟩

/-- An operation that somebody has signed is not touched by an estimation. -/
theorem step_estimate_of_mem {s : SafeOperation} {signature : OwnerSignature}
    (h : signature ∈ s.signatures.entries) (e : Estimation) : s.step (.estimate e) = s := by
  rcases s.step_estimate_cases e with hs | ⟨-, hempty, -⟩
  · exact hs
  · exact absurd (List.isEmpty_iff.mp hempty) (List.ne_nil_of_mem h)

theorem signatures_step_estimate (s : SafeOperation) (e : Estimation) :
    (s.step (.estimate e)).signatures = s.signatures := by
  rcases s.step_estimate_cases e with h | ⟨h, -⟩ <;> rw [h]

/-- An estimation that is taken replaces the fields it knows, even if it knows none. -/
theorem step_estimate_of_ok {s : SafeOperation} {e : Estimation}
    (h : (s.addEstimation e).1 = .ok ()) :
    s.step (.estimate e) = { s with operation := s.operation.applied e } := by
  rcases s.addEstimation_cases e with ⟨hs, hempty⟩ | ⟨error, hs⟩ | ⟨hs, -⟩
  · obtain rfl : e = .empty := of_decide_eq_true hempty
    rw [UserOperation.applied_empty]
    exact congrArg Prod.snd hs
  · rw [hs] at h
    cases h
  · exact congrArg Prod.snd hs

theorem addEstimation_of_generation_v06 {s : SafeOperation}
    (hgeneration : s.operation.generation = .v06) (hsigned : s.signatures = .empty)
    (e : Estimation) : (s.addEstimation e).1 = .ok () := by
  unfold addEstimation
  split
  · rfl
  · rw [hsigned, UserOperation.merge, hgeneration]
    rfl

/-- Every estimation is taken, one after another. -/
def Accepts : SafeOperation → List Estimation → Prop
  | _, [] => True
  | s, e :: rest => (s.addEstimation e).1 = .ok () ∧ (s.step (.estimate e)).Accepts rest

/-- What holds of all beginnings of a list: of the empty one, and of those with its first item. -/
theorem forall_prefix_cons_iff {α : Type} {P : List α → Prop} {x : α} {xs : List α} :
    (∀ before, before <+: x :: xs → P before) ↔ P [] ∧ ∀ before, before <+: xs → P (x :: before) := by
  constructor
  · intro h
    exact ⟨h [] List.nil_prefix,
      fun before hbefore => h (x :: before) (List.cons_prefix_cons.mpr ⟨rfl, hbefore⟩)⟩
  · rintro ⟨hnil, hcons⟩ before hbefore
    rcases List.prefix_cons_iff.mp hbefore with rfl | ⟨before', rfl, hprefix⟩
    · exact hnil
    · exact hcons before' hprefix

/-- Signatures that are added go into the set and change nothing else. -/
theorem run_sign (s : SafeOperation) (signatures : List OwnerSignature) :
    s.run (signatures.map .sign)
      = ⟨s.operation, s.context, signatures.foldl SignatureSet.add s.signatures⟩ := by
  induction signatures generalizing s with
  | nil => rfl
  | cons signature rest ih => exact ih (s.addSignature signature)

@[simp] theorem context_step (s : SafeOperation) (c : Change) :
    (s.step c).context = s.context := by
  cases c with
  | estimate e => rcases s.step_estimate_cases e with h | ⟨h, -⟩ <;> rw [h]
  | sign signature => rfl
  | clear => rfl

end SafeOps.SafeOperation
