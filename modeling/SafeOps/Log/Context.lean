import SafeOps.Log

/-!
# `SafeOps.Log.Context`: where a message was written

Every thread has a slot for the current context, and so has every task inside it. A method
puts its own context into the slot when it starts and keeps a guard, which puts the
former context back when it is released. A guard works on the kind of slot it was made
for, whatever has happened since.

Which methods do so depends on their declaration only (`Method.isMarked`). `Code` is what
code does as far as messages are concerned: it writes some, calls methods, and may fail.

* `leave_enter`: releasing a guard at once restores the contexts.
-/

set_option autoImplicit false

namespace SafeOps.Log

/-- The context of a module's methods. -/
def contextOf (module : String) : String :=
  "[Safe4337][" ++ module ++ "]"

/-- The slots for contexts. -/
structure Slots where
  /-- The slot of the thread. -/
  thread : Option String := none
  /-- The slot of the innermost task, if one runs. -/
  task : Option (Option String) := none
  deriving DecidableEq, Repr

/-- What a guard puts back, and where. -/
structure Guard where
  previous : Option String
  inTask : Bool
  deriving DecidableEq, Repr

namespace Slots

/-- The current context. -/
def current (s : Slots) : Option String :=
  s.task.getD s.thread

/-- Enters the context of a module. -/
def enter (module : String) (s : Slots) : Guard × Slots :=
  match s.task with
  | some previous => (⟨previous, true⟩, { s with task := some (some (contextOf module)) })
  | none => (⟨s.thread, false⟩, { s with thread := some (contextOf module) })

/-- Releases a guard. -/
def leave (g : Guard) (s : Slots) : Slots :=
  -- A guard of a task has nothing to put back once no task runs.
  if g.inTask then { s with task := s.task.map fun _ => g.previous }
  else { s with thread := g.previous }

/-- Starts a task, with an empty slot. -/
def startTask (s : Slots) : Slots :=
  { s with task := some none }

/-- Ends a task that was started in `outer`. -/
def endTask (outer s : Slots) : Slots :=
  { s with task := outer.task }

theorem leave_enter (module : String) (s : Slots) :
    (s.enter module).2.leave (s.enter module).1 = s := by
  obtain ⟨thread, task⟩ := s
  cases task <;> rfl

end Slots

/-! ## Methods -/

/-- A method as it is declared. -/
structure Method where
  /-- The path of its type; empty if the type has none. -/
  owner : List String
  isPublic : Bool
  isConst : Bool
  isAsync : Bool
  deriving DecidableEq, Repr

/-- A part of the library, as far as messages are concerned. -/
inductive Code where
  | done
  /-- Writes a message. -/
  | say (r : Record)
  /-- Ends with an error. -/
  | fail
  | seq (first second : Code)
  /-- Goes on even if the code inside fails. -/
  | attempt (code : Code)
  | call (m : Method) (body : Code)
  deriving DecidableEq, Repr

/-- Something that happens while code runs. -/
inductive Event where
  | message (m : Message)
  /-- A method has returned to where the context was `before`, and now is `after`. -/
  | returned (m : Method) (before after : Option String)
  deriving DecidableEq, Repr

/-- What a run leaves behind. -/
structure Outcome where
  failed : Bool
  slots : Slots
  events : List Event
  deriving DecidableEq, Repr

namespace Method

/-- The name of the type a method belongs to. -/
def module (m : Method) : String :=
  m.owner.getLast?.getD "Unknown"

/-- Whether a method has a context of its own. Constants cannot be made to keep a guard. -/
def isMarked (m : Method) : Bool :=
  m.isPublic && !m.isConst

/-- Runs the body of a method in its context. -/
def around (m : Method) (body : Slots → Outcome) (s : Slots) : Outcome :=
  if m.isMarked then
    -- A body that can be suspended needs a slot that goes with it.
    let inner := if m.isAsync then s.startTask else s
    let (guard, entered) := inner.enter m.module
    let outcome := body entered
    let released := outcome.slots.leave guard
    { outcome with slots := if m.isAsync then s.endTask released else released }
  else body s

end Method

/-- Runs code. -/
def Code.run : Code → Slots → Outcome
  | .done, s => ⟨false, s, []⟩
  | .say r, s =>
    ⟨false, s, { r with text := inContext s.current r.text }.deliver.map .message⟩
  | .fail, s => ⟨true, s, []⟩
  | .seq first second, s =>
    let outcome := first.run s
    if outcome.failed then outcome
    else
      let next := second.run outcome.slots
      { next with events := outcome.events ++ next.events }
  | .attempt code, s => { code.run s with failed := false }
  | .call m body, s =>
    let outcome := m.around (fun inner => body.run inner) s
    { outcome with
      events := outcome.events ++ [.returned m s.current outcome.slots.current] }

end SafeOps.Log
