import SafeOps.Proofs.Program.Transcript

/-!
# `SafeOps.Proofs.Program.Outcome`: runs that succeed and runs that fail

`Attempt.Gives` is a run that succeeds. Where it matters what a run does before it fails,
`Attempt.Ends` names the outcome, whichever it is. A chain of two steps ends with the failure of
the first one, or goes on with the second one where the first has succeeded (`ends_bind_iff`).

Errors of a part are put into words of the whole by `mapError`. It does the same at the end of a
chain and at each of its steps (`mapError_bind`), so a chain of foreign steps can be taken apart
as a chain of its own.
-/

set_option autoImplicit false

namespace SafeOps.Attempt

variable {ε ε' α β : Type} {t : List Exchange}

/-- The program may go through these exchanges and end with this outcome. -/
def Ends (p : Attempt ε α) (t : List Exchange) (r : Except ε α) : Prop :=
  Program.Runs p.run t r

theorem ends_ok_iff {p : Attempt ε α} {a : α} : p.Ends t (.ok a) ↔ p.Gives t a :=
  Iff.rfl

theorem ends_ofExcept_iff {x r : Except ε α} : (ofExcept x).Ends t r ↔ t = [] ∧ x = r :=
  Program.runs_done_iff

/-- A chain of two steps ends where the first one fails, or goes on with the second one. -/
theorem ends_bind_iff {x : Attempt ε α} {f : α → Attempt ε β} {r : Except ε β} :
    (x >>= f).Ends t r ↔
      (∃ e, x.Ends t (.error e) ∧ r = .error e)
        ∨ ∃ t₁ t₂ a, t = t₁ ++ t₂ ∧ x.Ends t₁ (.ok a) ∧ (f a).Ends t₂ r := by
  constructor
  · intro h
    obtain ⟨t₁, t₂, result, rfl, hfirst, hrest⟩ := Program.runs_bind_iff.mp h
    cases result with
    | ok a => exact Or.inr ⟨t₁, t₂, a, rfl, hfirst, hrest⟩
    | error e =>
      obtain ⟨rfl, rfl⟩ := Program.runs_done_iff.mp hrest
      rw [List.append_nil]
      exact Or.inl ⟨e, hfirst, rfl⟩
  · rintro (⟨e, hfirst, rfl⟩ | ⟨t₁, t₂, a, rfl, hfirst, hrest⟩)
    · exact Program.runs_bind_iff.mpr
        ⟨t, [], .error e, (List.append_nil t).symm, hfirst, .done _⟩
    · exact Program.runs_bind_iff.mpr ⟨t₁, t₂, .ok a, rfl, hfirst, hrest⟩

theorem ends_tell_bind_iff {level : Log.Level} {text : String} {f : Unit → Attempt ε β}
    {r : Except ε β} : (tell level text >>= f).Ends t r ↔ (f ()).Ends t r := by
  rw [ends_bind_iff]
  constructor
  · rintro (⟨e, htell, -⟩ | ⟨t₁, t₂, u, rfl, htell, hrest⟩)
    · obtain ⟨t₁, t₂, u, -, -, hrest⟩ := Program.runs_bind_iff.mp htell
      cases (Program.runs_done_iff.mp hrest).2
    · obtain rfl := gives_tell_iff.mp (ends_ok_iff.mp htell)
      exact hrest
  · intro hrest
    exact Or.inr ⟨[], t, (), rfl, gives_tell_iff.mpr rfl, hrest⟩

/-- A question in front of a program is its first exchange, whatever the answer is. -/
theorem ends_query_bind_iff {question : Query} (hquestion : ¬ question.IsMessage)
    {f : question.Answer → Attempt ε β} {r : Except ε β} :
    (always (Program.query question) >>= f).Ends t r ↔
      ∃ answer rest, t = ⟨question, answer⟩ :: rest ∧ (f answer).Ends rest r := by
  show Program.Runs (.ask question fun answer => (f answer).run) t r ↔ _
  constructor
  · intro h
    cases h with
    | tell hnext => exact (hquestion trivial).elim
    | ask _ answer hnext => exact ⟨answer, _, rfl, hnext⟩
  · rintro ⟨answer, rest, rfl, hnext⟩
    exact .ask hquestion answer hnext

theorem ends_ok_bind_iff {a : α} {f : α → Attempt ε β} {r : Except ε β} :
    (ofExcept (.ok a) >>= f).Ends t r ↔ (f a).Ends t r :=
  Iff.rfl

/-- Nothing is asked behind a failure. -/
theorem ends_error_bind_iff {e : ε} {f : α → Attempt ε β} {r : Except ε β} :
    (ofExcept (.error e) >>= f).Ends t r ↔ t = [] ∧ r = .error e :=
  Program.runs_done_iff.trans (and_congr_right fun _ => eq_comm)

theorem ends_within_iff {module : String} {p : Attempt ε α} {r : Except ε α} :
    (within module p).Ends t r ↔ p.Ends t r :=
  Program.runs_within_iff

theorem ends_mapError_iff {f : ε → ε'} {p : Attempt ε α} {r : Except ε' α} :
    (mapError f p).Ends t r ↔ ∃ r', p.Ends t r' ∧ r'.mapError f = r := by
  constructor
  · intro h
    obtain ⟨t₁, t₂, r', rfl, hfirst, hrest⟩ := Program.runs_bind_iff.mp h
    obtain ⟨rfl, hr⟩ := Program.runs_done_iff.mp hrest
    rw [List.append_nil]
    exact ⟨r', hfirst, hr⟩
  · rintro ⟨r', hfirst, rfl⟩
    exact Program.runs_bind_iff.mpr ⟨t, [], r', (List.append_nil t).symm, hfirst, .done _⟩

/-! ### Other errors -/

/-- A chain whose first step has its errors replaced. -/
theorem ends_mapError_bind_iff {f : ε → ε'} {p : Attempt ε α} {g : α → Attempt ε' β}
    {r : Except ε' β} :
    (mapError f p >>= g).Ends t r ↔
      (∃ e, p.Ends t (.error e) ∧ r = .error (f e))
        ∨ ∃ t₁ t₂ a, t = t₁ ++ t₂ ∧ p.Ends t₁ (.ok a) ∧ (g a).Ends t₂ r := by
  rw [ends_bind_iff]
  constructor
  · rintro (⟨e', hfailed, rfl⟩ | ⟨t₁, t₂, a, rfl, hp, hrest⟩)
    · obtain ⟨result, hp, hresult⟩ := ends_mapError_iff.mp hfailed
      cases result with
      | error e => exact Or.inl ⟨e, hp, congrArg Except.error (Except.error.inj hresult).symm⟩
      | ok a => cases hresult
    · exact Or.inr ⟨t₁, t₂, a, rfl, gives_mapError_iff.mp hp, hrest⟩
  · rintro (⟨e, hp, rfl⟩ | ⟨t₁, t₂, a, rfl, hp, hrest⟩)
    · exact Or.inl ⟨f e, ends_mapError_iff.mpr ⟨_, hp, rfl⟩, rfl⟩
    · exact Or.inr ⟨t₁, t₂, a, rfl, gives_mapError_iff.mpr hp, hrest⟩

end SafeOps.Attempt
