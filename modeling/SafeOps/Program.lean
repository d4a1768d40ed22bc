import SafeOps.Log.Context
import SafeOps.Node
import SafeOps.Signing.Passkey

/-!
# `SafeOps.Program`: what the library asks of the world

Preparing, signing and sending an operation takes answers from services, nodes and
signers, and tells the host about progress. A `Program` is a tree of such questions: it is
done, or it asks one and goes on according to the answer. Every program ends, whatever the
answers are.

`Program.run` plays a program against something that answers. `Program.within` marks the
messages of a method with its module, unless a method inside has marked them already.

* `bind_assoc`, `bind_pure`: programs compose as they should.
* `run_bind`: a composed program is played one part after the other.
-/

set_option autoImplicit false

namespace SafeOps

/-- A question to the world. -/
inductive Query where
  /-- Sends a request to a service. -/
  | post (service : Endpoint) (request : Rpc.Request)
  /-- Asks the node. -/
  | node (question : NodeQuery)
  /-- Asks the owner's key for the signature of a structured message. -/
  | typedSignature (method : SigningMethod) (data : TypedData)
  /-- Asks the owner's passkey to sign a challenge. -/
  | assertion (challenge : Hash)
  /-- Tells the host something. -/
  | tell (level : Log.Level) (context : Option String) (text : String)
  /-- Lets time pass. -/
  | pause

/-- What a question is answered with. -/
abbrev Query.Answer : Query → Type
  | .post _ _ => Rpc.Reply
  | .node question => Except NodeError question.Answer
  | .typedSignature _ _ => Except SignerError Secp256k1.Signature
  | .assertion _ => Except SignerError Assertion
  | .tell _ _ _ => Unit
  | .pause => Unit

/-- A tree of questions. -/
inductive Program (α : Type) : Type where
  | done (value : α)
  | ask (question : Query) (next : question.Answer → Program α)

namespace Program

/-- Goes on with a second program. -/
def bind {α β : Type} : Program α → (α → Program β) → Program β
  | .done value, f => f value
  | .ask question next, f => .ask question fun answer => bind (next answer) f

instance : Monad Program where
  pure := .done
  bind := bind

/-- Asks one question. -/
def query (question : Query) : Program question.Answer :=
  .ask question .done

/-- Tells the host something. -/
def tell (level : Log.Level) (text : String) : Program Unit :=
  query (.tell level none text)

/-- Marks the messages of a method with its module. -/
def within {α : Type} (module : String) : Program α → Program α
  | .done value => .done value
  | .ask (.tell level none text) next =>
    .ask (.tell level (some (Log.contextOf module)) text) fun answer =>
      within module (next answer)
  | .ask question next => .ask question fun answer => within module (next answer)

/-- Plays a program against something that answers and remembers. -/
def run {σ α : Type} (answer : σ → (question : Query) → question.Answer × σ) :
    Program α → σ → α × σ
  | .done value, s => (value, s)
  | .ask question next, s =>
    let (a, s') := answer s question
    run answer (next a) s'

/-! ## Composition -/

theorem bind_pure {α : Type} (p : Program α) : bind p .done = p := by
  induction p with
  | done value => rfl
  | ask question next ih => exact congrArg (Program.ask question) (funext ih)

theorem bind_assoc {α β γ : Type} (p : Program α) (f : α → Program β) (g : β → Program γ) :
    bind (bind p f) g = bind p fun x => bind (f x) g := by
  induction p with
  | done value => rfl
  | ask question next ih => exact congrArg (Program.ask question) (funext ih)

instance : LawfulMonad Program :=
  LawfulMonad.mk' Program (fun p => bind_pure p) (fun _ _ => rfl) bind_assoc

theorem run_bind {σ α β : Type} (answer : σ → (question : Query) → question.Answer × σ)
    (p : Program α) (f : α → Program β) (s : σ) :
    run answer (bind p f) s = run answer (f (run answer p s).1) (run answer p s).2 := by
  induction p generalizing s with
  | done value => rfl
  | ask question next ih => exact ih _ _

end Program

/-- A program that may fail. -/
abbrev Attempt (ε α : Type) : Type := ExceptT ε Program α

namespace Attempt

/-- Asks one question that may have no answer. -/
def ofProgram {ε α : Type} (p : Program (Except ε α)) : Attempt ε α :=
  ExceptT.mk p

/-- Asks or tells something that cannot fail. -/
def always {ε α : Type} (p : Program α) : Attempt ε α :=
  ExceptT.lift p

/-- Takes over a result. -/
def ofExcept {ε α : Type} (x : Except ε α) : Attempt ε α :=
  ExceptT.mk (.done x)

/-- The same with other errors. -/
def mapError {ε ε' α : Type} (f : ε → ε') (p : Attempt ε α) : Attempt ε' α :=
  ExceptT.mk (p.run.bind fun r => .done (r.mapError f))

/-- Tells the host something. -/
def tell {ε : Type} (level : Log.Level) (text : String) : Attempt ε Unit :=
  always (Program.tell level text)

/-- Marks the messages of a method with its module. -/
def within {ε α : Type} (module : String) (p : Attempt ε α) : Attempt ε α :=
  ExceptT.mk (Program.within module p.run)

end Attempt

end SafeOps
