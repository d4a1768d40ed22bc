import SafeOps.Program

/-!
# `SafeOps.Proofs.Program`: what a program may ask

`Program.Asks` says of a program that each of its questions is of some kind, whatever the
answers to the questions before it were. It holds of a composed program if it holds of the
parts, also where the first part may fail.
-/

set_option autoImplicit false

namespace SafeOps

namespace Program

/-- All questions of a program are of some kind, whatever the answers are. -/
def Asks {α : Type} (P : Query → Prop) : Program α → Prop
  | .done _ => True
  | .ask question next => P question ∧ ∀ answer, Asks P (next answer)

variable {α β : Type} {P : Query → Prop}

theorem asks_query {question : Query} (h : P question) : (query question).Asks P :=
  ⟨h, fun _ => trivial⟩

/-- A composed program asks what its parts ask. -/
theorem asks_bind {p : Program α} {f : α → Program β} (hp : p.Asks P)
    (hf : ∀ a, (f a).Asks P) : (bind p f).Asks P := by
  induction p with
  | done value => exact hf value
  | ask question next ih =>
    obtain ⟨hquestion, hnext⟩ := hp
    exact ⟨hquestion, fun answer => ih answer (hnext answer)⟩

end Program

namespace Attempt

variable {ε α β : Type} {P : Query → Prop}

/-- A program that goes on after a success asks what its parts ask. -/
theorem asks_bind {x : Attempt ε α} {f : α → Attempt ε β} (hx : x.run.Asks P)
    (hf : ∀ a, (f a).run.Asks P) : (x >>= f).run.Asks P := by
  refine Program.asks_bind hx fun result => ?_
  cases result with
  | ok a => exact hf a
  -- A failure asks nothing more.
  | error e => exact trivial

theorem asks_always {p : Program α} (h : p.Asks P) : (always p : Attempt ε α).run.Asks P :=
  Program.asks_bind h fun _ => trivial

theorem asks_ofExcept {x : Except ε α} : (ofExcept x).run.Asks P :=
  trivial

theorem asks_tell (h : ∀ level context text, P (.tell level context text)) {level : Log.Level}
    {text : String} : (tell level text : Attempt ε Unit).run.Asks P :=
  asks_always (Program.asks_query (h level none text))

theorem asks_mapError {ε' : Type} {f : ε → ε'} {p : Attempt ε α} (h : p.run.Asks P) :
    (mapError f p).run.Asks P :=
  Program.asks_bind h fun _ => trivial

end Attempt

end SafeOps
