import SafeOps.Proofs.Failable
import SafeOps.Proofs.Program

/-!
# `SafeOps.Proofs.Program.Transcript`: what a program asked and was answered

A transcript lists the questions a program asked, each with its answer. `Program.Runs` says that
a program may go through a transcript and end with a value: whoever answers, and whatever the
answers are, the run is one of these (`runs_run`). Messages to the host are left out, since a
program goes on in the same way after each of them; marking them with a module changes
no transcript (`runs_within_iff`).

`Attempt.Gives` is a run that succeeds. A chain of steps succeeds if every step does, and then
the transcript is that of the first step followed by that of the rest (`gives_bind_iff`). The
lemmas take a success apart, step by step, so that no proof has to look into a program.
-/

set_option autoImplicit false

namespace SafeOps

/-- A message to the host, which has no answer worth the name. -/
def Query.IsMessage : Query → Prop
  | .tell _ _ _ => True
  | _ => False

instance : DecidablePred Query.IsMessage
  | .tell _ _ _ => .isTrue trivial
  | .post _ _ => .isFalse id
  | .node _ => .isFalse id
  | .typedSignature _ _ => .isFalse id
  | .assertion _ => .isFalse id
  | .pause => .isFalse id

/-- A question, with the answer it got. -/
abbrev Exchange : Type :=
  (question : Query) × question.Answer

namespace Program

variable {α β : Type}

/-- The program may go through these exchanges and end with this value. -/
inductive Runs {α : Type} : Program α → List Exchange → α → Prop where
  | done (value : α) : Runs (.done value) [] value
  | tell {level : Log.Level} {context : Option String} {text : String}
      {next : Unit → Program α} {t : List Exchange} {value : α} :
      Runs (next ()) t value → Runs (.ask (.tell level context text) next) t value
  | ask {question : Query} {next : question.Answer → Program α} {t : List Exchange} {value : α}
      (hquestion : ¬ question.IsMessage) (answer : question.Answer) :
      Runs (next answer) t value → Runs (.ask question next) (⟨question, answer⟩ :: t) value

/-- What is asked and answered while a program is played. -/
def transcript {σ : Type} (answer : σ → (question : Query) → question.Answer × σ) :
    Program α → σ → List Exchange
  | .done _, _ => []
  | .ask question next, s =>
    (if question.IsMessage then [] else [⟨question, (answer s question).1⟩])
      ++ transcript answer (next (answer s question).1) (answer s question).2

theorem runs_done_iff {value value' : α} {t : List Exchange} :
    Runs (.done value) t value' ↔ t = [] ∧ value = value' := by
  constructor
  · intro h
    cases h
    exact ⟨rfl, rfl⟩
  · rintro ⟨rfl, rfl⟩
    exact .done value

/-- A composed program goes through the exchanges of its parts. -/
theorem runs_bind_iff {p : Program α} {f : α → Program β} {t : List Exchange} {b : β} :
    Runs (bind p f) t b ↔ ∃ t₁ t₂ a, t = t₁ ++ t₂ ∧ Runs p t₁ a ∧ Runs (f a) t₂ b := by
  -- The induction is on the first part; what it asks stands at the front of the transcript.
  induction p generalizing t with
  | done value =>
    constructor
    · intro h
      exact ⟨[], t, value, rfl, .done value, h⟩
    · rintro ⟨t₁, t₂, a, rfl, hfirst, hrest⟩
      obtain ⟨rfl, rfl⟩ := runs_done_iff.mp hfirst
      exact hrest
  | ask question next ih =>
    constructor
    · intro h
      cases h with
      | tell hnext =>
        obtain ⟨t₁, t₂, a, ht, hfirst, hrest⟩ := (ih ()).mp hnext
        exact ⟨t₁, t₂, a, ht, .tell hfirst, hrest⟩
      | ask hquestion answer hnext =>
        obtain ⟨t₁, t₂, a, rfl, hfirst, hrest⟩ := (ih answer).mp hnext
        exact ⟨⟨question, answer⟩ :: t₁, t₂, a, rfl, .ask hquestion answer hfirst, hrest⟩
    · rintro ⟨t₁, t₂, a, rfl, hfirst, hrest⟩
      cases hfirst with
      | tell hnext => exact .tell ((ih ()).mpr ⟨_, t₂, a, rfl, hnext, hrest⟩)
      | ask hquestion answer hnext =>
        exact .ask hquestion answer ((ih answer).mpr ⟨_, t₂, a, rfl, hnext, hrest⟩)

/-- A question is asked and answered with the value. -/
theorem runs_query_iff {question : Query} (hquestion : ¬ question.IsMessage)
    {t : List Exchange} {answer : question.Answer} :
    Runs (query question) t answer ↔ t = [⟨question, answer⟩] := by
  constructor
  · intro h
    cases h with
    | tell hnext => exact (hquestion trivial).elim
    | ask hquestion' answer' hnext =>
      obtain ⟨rfl, rfl⟩ := runs_done_iff.mp hnext
      rfl
  · rintro rfl
    exact .ask hquestion answer (.done answer)

theorem runs_within_iff {module : String} {p : Program α} {t : List Exchange} {value : α} :
    Runs (within module p) t value ↔ Runs p t value := by
  induction p generalizing t with
  | done v => exact Iff.rfl
  | ask question next ih =>
    constructor
    · intro h
      unfold within at h
      split at h
      · next hnil => cases hnil
      · next level text next' heq =>
        cases heq
        cases h with
        | tell hnext => exact .tell ((ih ()).mp hnext)
        | ask hquestion answer hnext => exact (hquestion trivial).elim
      · next question' next' hquestion heq =>
        cases heq
        cases h with
        | tell hnext => exact .tell ((ih ()).mp hnext)
        | ask hquestion answer hnext => exact .ask hquestion answer ((ih answer).mp hnext)
    · intro h
      -- Marking looks at the kind of the question first, so the cases are those of the question.
      cases h with
      | @tell level context text _ _ _ hnext =>
        cases context with
        | none => exact .tell ((ih ()).mpr hnext)
        | some marked => exact .tell ((ih ()).mpr hnext)
      | ask hquestion answer hnext =>
        cases question with
        | tell level context text => exact (hquestion trivial).elim
        | post service request => exact .ask hquestion answer ((ih answer).mpr hnext)
        | node question => exact .ask hquestion answer ((ih answer).mpr hnext)
        | typedSignature method data => exact .ask hquestion answer ((ih answer).mpr hnext)
        | assertion challenge => exact .ask hquestion answer ((ih answer).mpr hnext)
        | pause => exact .ask hquestion answer ((ih answer).mpr hnext)

/-- What all questions of a program are like, those in a transcript are like. -/
theorem Runs.forall_of_asks {P : Query → Prop} {p : Program α} {t : List Exchange} {value : α}
    (h : Runs p t value) (hasks : p.Asks P) : ∀ x ∈ t, P x.1 := by
  induction h with
  | done value =>
    intro x hx
    cases hx
  | tell hnext ih => exact ih (hasks.2 ())
  | ask hquestion answer hnext ih =>
    intro x hx
    rcases List.mem_cons.mp hx with rfl | hx
    · exact hasks.1
    · exact ih (hasks.2 answer) x hx

end Program

/-! ### Programs that may fail -/

namespace Attempt

variable {ε ε' α β : Type} {t : List Exchange}

/-- The program may go through these exchanges and succeed with this value. -/
def Gives (p : Attempt ε α) (t : List Exchange) (a : α) : Prop :=
  Program.Runs p.run t (.ok a)

theorem gives_pure_iff {a b : α} : (pure a : Attempt ε α).Gives t b ↔ t = [] ∧ a = b := by
  rw [Gives]
  show Program.Runs (.done (Except.ok a)) t (.ok b) ↔ _
  rw [Program.runs_done_iff, Except.ok.injEq]

theorem not_gives_throw {e : ε} {a : α} : ¬ (throw e : Attempt ε α).Gives t a := by
  intro h
  obtain ⟨-, hok⟩ := Program.runs_done_iff.mp h
  cases hok

/-- A chain of two steps succeeds if both do. -/
theorem gives_bind_iff {x : Attempt ε α} {f : α → Attempt ε β} {b : β} :
    (x >>= f).Gives t b ↔ ∃ t₁ t₂ a, t = t₁ ++ t₂ ∧ x.Gives t₁ a ∧ (f a).Gives t₂ b := by
  constructor
  · intro h
    obtain ⟨t₁, t₂, result, ht, hfirst, hrest⟩ := Program.runs_bind_iff.mp h
    cases result with
    | ok a => exact ⟨t₁, t₂, a, ht, hfirst, hrest⟩
    | error e =>
      -- A failure of the first step is the failure of both.
      obtain ⟨-, hok⟩ := Program.runs_done_iff.mp hrest
      cases hok
  · rintro ⟨t₁, t₂, a, ht, hfirst, hrest⟩
    exact Program.runs_bind_iff.mpr ⟨t₁, t₂, .ok a, ht, hfirst, hrest⟩

theorem gives_ofExcept_iff {x : Except ε α} {a : α} :
    (ofExcept x).Gives t a ↔ t = [] ∧ x = .ok a :=
  Program.runs_done_iff

theorem gives_always_iff {p : Program α} {a : α} :
    (always p : Attempt ε α).Gives t a ↔ Program.Runs p t a := by
  constructor
  · intro h
    obtain ⟨t₁, t₂, a', rfl, hfirst, hrest⟩ := Program.runs_bind_iff.mp h
    obtain ⟨rfl, hok⟩ := Program.runs_done_iff.mp hrest
    cases hok
    rwa [List.append_nil]
  · intro h
    exact Program.runs_bind_iff.mpr ⟨t, [], a, (List.append_nil t).symm, h, .done _⟩

theorem gives_tell_iff {level : Log.Level} {text : String} {u : Unit} :
    (tell level text : Attempt ε Unit).Gives t u ↔ t = [] := by
  constructor
  · intro h
    cases gives_always_iff.mp h with
    | tell hnext => exact (Program.runs_done_iff.mp hnext).1
    | ask hquestion answer hnext => exact (hquestion trivial).elim
  · rintro rfl
    exact gives_always_iff.mpr (.tell (.done ()))

theorem gives_mapError_iff {f : ε → ε'} {p : Attempt ε α} {a : α} :
    (mapError f p).Gives t a ↔ p.Gives t a := by
  constructor
  · intro h
    obtain ⟨t₁, t₂, result, rfl, hfirst, hrest⟩ := Program.runs_bind_iff.mp h
    obtain ⟨rfl, hok⟩ := Program.runs_done_iff.mp hrest
    rw [mapError_eq_ok_iff] at hok
    subst hok
    rwa [List.append_nil]
  · intro h
    exact Program.runs_bind_iff.mpr ⟨t, [], .ok a, (List.append_nil t).symm, h, .done _⟩

theorem gives_within_iff {module : String} {p : Attempt ε α} {a : α} :
    (within module p).Gives t a ↔ p.Gives t a :=
  Program.runs_within_iff

/-- A message in front of a program does not show. -/
theorem gives_tell_bind_iff {level : Log.Level} {text : String} {f : Unit → Attempt ε β} {b : β} :
    (tell level text >>= f).Gives t b ↔ (f ()).Gives t b := by
  rw [gives_bind_iff]
  constructor
  · rintro ⟨t₁, t₂, u, rfl, htell, hrest⟩
    obtain rfl := gives_tell_iff.mp htell
    exact hrest
  · intro hrest
    exact ⟨[], t, (), rfl, gives_tell_iff.mpr rfl, hrest⟩

/-- A result in front of a program is no exchange. -/
theorem gives_ofExcept_bind_iff {x : Except ε α} {f : α → Attempt ε β} {b : β} :
    (ofExcept x >>= f).Gives t b ↔ ∃ a, x = .ok a ∧ (f a).Gives t b := by
  rw [gives_bind_iff]
  constructor
  · rintro ⟨t₁, t₂, a, rfl, hx, hrest⟩
    obtain ⟨rfl, hok⟩ := gives_ofExcept_iff.mp hx
    exact ⟨a, hok, hrest⟩
  · rintro ⟨a, hx, hrest⟩
    exact ⟨[], t, a, rfl, gives_ofExcept_iff.mpr ⟨rfl, hx⟩, hrest⟩

end Attempt

end SafeOps
