import SafeOps.Rehearsal.Chain
import SafeOps.Rehearsal.Network
import SafeOps.Rehearsal.Owner

/-!
# `SafeOps.Rehearsal.Stage`: playing a program in memory

A stage has a chain, a network and an owner, and keeps a journal of what a program asks
and tells. `Stage.play` runs a program against it. Time does not pass on a stage.

* `play_bind`: a composed program is played one part after the other, on the stage the
  first part leaves.
-/

set_option autoImplicit false

namespace SafeOps.Rehearsal

/-- What a signer was asked. -/
inductive Asked where
  | method (method : SigningMethod)
  | challenge (challenge : Hash)
  deriving DecidableEq, Repr

/-- What has happened, in order. -/
structure Journal where
  messages : List Log.Message := []
  /-- The requests that arrived at a service. -/
  requests : List Rpc.Request := []
  /-- What the chain was asked, whether it answered or not. -/
  questions : List NodeQuery := []
  asked : List Asked := []
  deriving Repr

/-- What a program is played on. -/
structure Stage where
  chain : Chain := {}
  network : Network := .down
  owner : Option Owner := none
  journal : Journal := {}

namespace Stage

/-- Writes a message down. -/
def note (s : Stage) (message : Log.Message) : Stage :=
  { s with journal := { s.journal with messages := s.journal.messages ++ [message] } }

/-- Writes down what the owner was asked. -/
def noteAsked (s : Stage) (asked : Asked) : Stage :=
  { s with journal := { s.journal with asked := s.journal.asked ++ [asked] } }

/-- Writes down what the chain was asked. -/
def noteQuestion (s : Stage) (question : NodeQuery) : Stage :=
  { s with journal := { s.journal with questions := s.journal.questions ++ [question] } }

/-- Sends a request, and writes it down if it arrives. -/
def post (s : Stage) (service : Endpoint) (r : Rpc.Request) : Rpc.Reply × Stage :=
  let (reply, network, arrived) := s.network.answer service r
  let requests := if arrived then s.journal.requests ++ [r] else s.journal.requests
  (reply, { s with network, journal := { s.journal with requests } })

/-- What is said when nobody signs. -/
def nobody : SignerError := .other "there is no signer"

/-- Answers a question. -/
def answer (s : Stage) : (question : Query) → question.Answer × Stage
  | .post service r => s.post service r
  | .node question => (s.chain.answer question, s.noteQuestion question)
  | .typedSignature method data =>
    (match s.owner with
      | some owner => owner.typedSignature method data
      | none => .error nobody,
      s.noteAsked (.method method))
  | .assertion challenge =>
    (match s.owner with
      | some owner => owner.assertion
      | none => .error nobody,
      s.noteAsked (.challenge challenge))
  | .tell level context text => ((), s.note ⟨level, Log.inContext context text⟩)
  | .pause => ((), s)

/-- Plays a program. -/
def play {α : Type} (s : Stage) (p : Program α) : α × Stage :=
  Program.run answer p s

/-- Plays a program that may fail. -/
def attempt {ε α : Type} (s : Stage) (p : Attempt ε α) : Except ε α × Stage :=
  s.play p.run

/-- The stage with an empty journal. -/
def clear (s : Stage) : Stage :=
  { s with journal := {} }

theorem play_bind {α β : Type} (s : Stage) (p : Program α) (f : α → Program β) :
    s.play (p.bind f) = (s.play p).2.play (f (s.play p).1) :=
  Program.run_bind answer p f s

end Stage

end SafeOps.Rehearsal
