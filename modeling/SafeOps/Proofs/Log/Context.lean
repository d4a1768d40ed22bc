import Mathlib.Data.List.Basic
import SafeOps.Program

/-!
# `SafeOps.Proofs.Log.Context`: messages carry the context they were written in

The context of a message is found in slots that change while code runs. What it should be can be
read off the calls the message was written inside of, without any slot: it is that of the innermost
method with a context of its own (`contextAt`). `Code.sayings` lists what is said with these calls.

The invariant of a run is that it leaves the slots as it found them (`run_slots`). A guard puts back
what it has replaced, and the slot of a task ends with the task, so one lemma about a single
method, `around_eq`, carries the induction. Given that, the body of a method runs in slots that
show its context (`current_inside`), and the messages are as they should be by a second induction
(`messages_run`).

The programs of the library have no slots. There `Program.within` marks what a method tells, and
`messages_run_eq_program` says that the guards of methods lead to the same messages.

`prefixed_run` is the main statement, for code of any depth that is started in any slots.
-/

set_option autoImplicit false

namespace SafeOps.Log

/-! ### What is said, and inside of which calls -/

/-- What code says, each with the methods it is said inside of, innermost first, and whether it ends
with an error. -/
def Code.sayings (inside : List Method) : Code → Bool × List (List Method × Record)
  | .done => (false, [])
  | .say r => (false, [(inside, r)])
  | .fail => (true, [])
  | .seq first second =>
    if (first.sayings inside).1 then first.sayings inside
    else ((second.sayings inside).1, (first.sayings inside).2 ++ (second.sayings inside).2)
  | .attempt code => (false, (code.sayings inside).2)
  | .call m body => body.sayings (m :: inside)

/-- The context inside of some methods: that of the innermost one that has a context of its own, or
else the one around all of them. -/
def contextAt (ambient : Option String) (inside : List Method) : Option String :=
  match inside.find? Method.isMarked with
  | some m => some (contextOf m.module)
  | none => ambient

/-- What reaches the host of something said. -/
def heard (ambient : Option String) (saying : List Method × Record) : List Message :=
  { saying.2 with text := inContext (contextAt ambient saying.1) saying.2.text }.deliver

/-- The messages among what happened. -/
def messages (events : List Event) : List Message :=
  events.filterMap fun
    | .message m => some m
    | .returned _ _ _ => none

/-! ### One method -/

namespace Method

/-- The slots in which the body of a method runs. -/
def inside (m : Method) (s : Slots) : Slots :=
  if m.isMarked then ((if m.isAsync then s.startTask else s).enter m.module).2 else s

theorem current_enter (module : String) (s : Slots) :
    (s.enter module).2.current = some (contextOf module) := by
  obtain ⟨thread, task⟩ := s
  cases task <;> rfl

/-- The body runs in the context of the method, if it has one. -/
theorem current_inside (m : Method) (s : Slots) :
    (m.inside s).current = if m.isMarked then some (contextOf m.module) else s.current := by
  rw [inside]
  split
  · exact current_enter m.module _
  · rfl

theorem endTask_startTask (s : Slots) : s.endTask s.startTask = s := rfl

/-- If a body leaves the slots as it found them, then so does the method, and it does what the body
does in its context. -/
theorem around_eq (m : Method) {body : Slots → Outcome} (h : ∀ s, (body s).slots = s) (s : Slots) :
    m.around body s = { body (m.inside s) with slots := s } := by
  have hbody := h (m.inside s)
  unfold around inside at *
  split
  · next hmarked =>
    rw [if_pos hmarked] at hbody
    -- The guard is released in the slots in which it was made.
    have hreleased := Slots.leave_enter m.module (if m.isAsync then s.startTask else s)
    simp only [hbody, hreleased]
    split
    · rw [endTask_startTask]
    · rfl
  · next hmarked =>
    rw [if_neg hmarked] at hbody
    generalize body s = outcome at hbody ⊢
    rw [← hbody]

end Method

/-! ### Runs -/

/-- Code leaves the slots as it found them, whether it fails or not. -/
theorem run_slots (c : Code) (s : Slots) : (c.run s).slots = s := by
  induction c generalizing s with
  | done => rfl
  | say r => rfl
  | fail => rfl
  | seq first second ihFirst ihSecond =>
    rw [Code.run]
    dsimp only
    split
    · exact ihFirst s
    · show (second.run (first.run s).slots).slots = s
      rw [ihFirst, ihSecond]
  | attempt code ih => exact ih s
  | call m body ih =>
    show (m.around (fun inner => body.run inner) s).slots = s
    rw [m.around_eq ih]

/-- What a call does, once the slots are known to be restored. -/
theorem run_call (m : Method) (body : Code) (s : Slots) :
    (Code.call m body).run s = ⟨(body.run (m.inside s)).failed, s,
      (body.run (m.inside s)).events ++ [.returned m s.current s.current]⟩ := by
  rw [Code.run, m.around_eq (run_slots body)]

theorem run_seq (first second : Code) (s : Slots) :
    (first.seq second).run s =
      if (first.run s).failed then first.run s
      else ⟨(second.run s).failed, s, (first.run s).events ++ (second.run s).events⟩ := by
  have hsecond := run_slots second s
  rw [Code.run, run_slots first s]
  generalize second.run s = outcome at hsecond ⊢
  rw [← hsecond]

/-- Each method returns to the context from which it was called. -/
theorem eq_of_returned_mem {c : Code} {s : Slots} {m : Method} {before after : Option String}
    (h : .returned m before after ∈ (c.run s).events) : after = before := by
  induction c generalizing s with
  | done => cases h
  | say r => simp [Code.run] at h
  | fail => cases h
  | seq first second ihFirst ihSecond =>
    rw [run_seq] at h
    split at h
    · exact ihFirst h
    · rcases List.mem_append.mp h with h | h
      · exact ihFirst h
      · exact ihSecond h
  | attempt code ih => exact ih h
  | call m' body ih =>
    rw [run_call] at h
    rcases List.mem_append.mp h with h | h
    · exact ih h
    · cases List.mem_singleton.mp h
      rfl

/-- Whether code ends with an error has nothing to do with contexts. -/
theorem failed_run (c : Code) (inside : List Method) (s : Slots) :
    (c.run s).failed = (c.sayings inside).1 := by
  induction c generalizing inside s with
  | done => rfl
  | say r => rfl
  | fail => rfl
  | seq first second ihFirst ihSecond =>
    rw [run_seq, Code.sayings, ihFirst inside s]
    split
    · exact ihFirst inside s
    · exact ihSecond inside s
  | attempt code ih => rfl
  | call m body ih =>
    rw [run_call, Code.sayings]
    exact ih (m :: inside) (m.inside s)

theorem messages_append (front back : List Event) :
    messages (front ++ back) = messages front ++ messages back :=
  List.filterMap_append

/-- In the body of a method the slots show the context that belongs there. -/
theorem current_inside_eq {ambient : Option String} {inside : List Method} {s : Slots}
    (h : s.current = contextAt ambient inside) (m : Method) :
    (m.inside s).current = contextAt ambient (m :: inside) := by
  rw [Method.current_inside, contextAt, List.find?_cons]
  cases m.isMarked with
  | true => rfl
  | false => exact h

/-- If the slots show the context that belongs there at the start, then all messages do. -/
theorem messages_run (c : Code) {ambient : Option String} {inside : List Method} {s : Slots}
    (h : s.current = contextAt ambient inside) :
    messages (c.run s).events = (c.sayings inside).2.flatMap (heard ambient) := by
  induction c generalizing inside s with
  | done => rfl
  | say r =>
    have hall : ∀ l : List Message, messages (l.map .message) = l := by
      intro l
      simp [messages, List.filterMap_map]
    rw [Code.run, hall, h, Code.sayings, List.flatMap_singleton]
    rfl
  | fail => rfl
  | seq first second ihFirst ihSecond =>
    rw [run_seq, Code.sayings, failed_run first inside s]
    split
    · exact ihFirst h
    · rw [messages_append, ihFirst h, ihSecond h, List.flatMap_append]
  | attempt code ih => exact ih h
  | call m body ih =>
    rw [run_call, Code.sayings, messages_append, ih (current_inside_eq h m)]
    exact List.append_nil _

/-! ### Methods of programs -/

/-- The program of code: it tells the host what the code says, and marks what methods say. Its
value is whether the code fails. -/
def Code.program : Code → Program Bool
  | .done => .done false
  | .say r => (Program.tell r.level r.text).bind fun _ => .done false
  | .fail => .done true
  | .seq first second =>
    first.program.bind fun failed => if failed then .done true else second.program
  | .attempt code => code.program.bind fun _ => .done false
  | .call m body => if m.isMarked then Program.within m.module body.program else body.program

/-- What was told: a level, a context and a text. -/
abbrev Told : Type := Level × Option String × String

/-- Writes down what is told. Somebody else knows everything that is asked. -/
def note (others : (question : Query) → question.Answer) (told : List Told) :
    (question : Query) → question.Answer × List Told
  | .tell level context text => ((), told ++ [(level, context, text)])
  | question => (others question, told)

/-- What is told in a method that has a context of its own. -/
def mark (module : String) (told : Told) : Told :=
  (told.1, told.2.1.or (some (contextOf module)), told.2.2)

section

variable (others : (question : Query) → question.Answer)

/-- What was told before stays in front. -/
theorem run_note {α : Type} (p : Program α) (told : List Told) :
    p.run (note others) told
      = ((p.run (note others) []).1, told ++ (p.run (note others) []).2) := by
  induction p generalizing told with
  | done value => simp [Program.run]
  | ask question next ih =>
    cases question with
    | tell level context text =>
      simp only [Program.run, note, List.nil_append]
      rw [ih, ih () [_]]
      simp
    | post service request => exact ih _ told
    | node question => exact ih _ told
    | typedSignature method data => exact ih _ told
    | assertion challenge => exact ih _ told
    | pause => exact ih _ told

/-- A method marks what is not marked yet, and changes nothing else. -/
theorem run_within {α : Type} (module : String) (p : Program α) :
    (p.within module).run (note others) []
      = ((p.run (note others) []).1, (p.run (note others) []).2.map (mark module)) := by
  induction p with
  | done value => rfl
  | ask question next ih =>
    cases question with
    | tell level context text =>
      have hnext := ih ()
      cases context with
      | none =>
        simp only [Program.within, Program.run, note, List.nil_append]
        rw [run_note, run_note others (next ()), hnext]
        rfl
      | some context =>
        simp only [Program.within, Program.run, note, List.nil_append]
        rw [run_note, run_note others (next ()), hnext]
        rfl
    | post service request => exact ih _
    | node question => exact ih _
    | typedSignature method data => exact ih _
    | assertion challenge => exact ih _
    | pause => exact ih _

/-- What was said, as it is told: in the context of the innermost method that has one. -/
def toTold (saying : List Method × Record) : Told :=
  (saying.2.level, contextAt none saying.1, saying.2.text)

/-- Methods around all of some code are around everything it says. -/
theorem sayings_append (c : Code) (inside outer : List Method) :
    c.sayings (inside ++ outer)
      = ((c.sayings inside).1, (c.sayings inside).2.map fun x => (x.1 ++ outer, x.2)) := by
  induction c generalizing inside with
  | done => rfl
  | say r => rfl
  | fail => rfl
  | seq first second ihFirst ihSecond =>
    simp only [Code.sayings, ihFirst, ihSecond]
    split <;> simp
  | attempt code ih => simp only [Code.sayings, ih]
  | call m body ih =>
    have hbody := ih (m :: inside)
    simpa only [Code.sayings, List.cons_append] using hbody

/-- A method around everything counts where no other one does. -/
theorem toTold_concat (m : Method) (saying : List Method × Record) :
    toTold (saying.1 ++ [m], saying.2)
      = if m.isMarked then mark m.module (toTold saying) else toTold saying := by
  simp only [toTold, mark, contextAt, List.find?_append]
  cases hinner : saying.1.find? Method.isMarked with
  | none => cases hm : m.isMarked <;> simp [hm]
  | some inner => simp

/-- A program tells what its code says. -/
theorem run_program (c : Code) :
    c.program.run (note others) [] = ((c.sayings []).1, (c.sayings []).2.map toTold) := by
  induction c with
  | done => rfl
  | say r => rfl
  | fail => rfl
  | seq first second ihFirst ihSecond =>
    rw [Code.program, Program.run_bind, ihFirst, Code.sayings]
    obtain ⟨failed, said⟩ := first.sayings []
    cases failed with
    | true => rfl
    | false =>
      show second.program.run (note others) (said.map toTold) = _
      rw [run_note, ihSecond]
      simp
  | attempt code ih =>
    rw [Code.program, Program.run_bind, ih]
    rfl
  | call m body ih =>
    have hbody : (body.sayings [m])
        = ((body.sayings []).1, (body.sayings []).2.map fun x => (x.1 ++ [m], x.2)) :=
      sayings_append body [] [m]
    have htold : (fun x : List Method × Record => toTold (x.1 ++ [m], x.2))
        = if m.isMarked then mark m.module ∘ toTold else toTold := by
      funext x
      rw [toTold_concat]
      split <;> rfl
    rw [Code.program, Code.sayings, hbody, List.map_map]
    show _ = (_, List.map (fun x : List Method × Record => toTold (x.1 ++ [m], x.2)) _)
    rw [htold]
    split
    · rw [run_within, ih, List.map_map]
    · exact ih

/-- The guards of methods lead to the messages that the program tells, if all of them come from the
library itself. -/
theorem messages_run_eq_program {c : Code}
    (hown : ∀ saying ∈ (c.sayings []).2, isOwn saying.2.modulePath = true) :
    messages (c.run {}).events = (c.program.run (note others) []).2.map fun told =>
      ⟨told.1, inContext told.2.1 told.2.2⟩ := by
  have hstart : ({} : Slots).current = contextAt none [] := rfl
  rw [run_program, messages_run c hstart, List.map_map, List.map_eq_flatMap]
  refine List.flatMap_congr fun saying hsaying => ?_
  simp [heard, Record.deliver, hown saying hsaying, toTold]

end

/-! ### Code of any depth -/

/-- Code of any depth, started in any slots, says everything in the context of the innermost method
that has one, or else in the context it was started in. Each method returns to the context from
which it was called, whether it fails or not, and at the end all slots are as they were. -/
theorem prefixed_run (c : Code) (s : Slots) :
    messages (c.run s).events = (c.sayings []).2.flatMap (heard s.current)
      ∧ (∀ m before after, .returned m before after ∈ (c.run s).events → after = before)
      ∧ (c.run s).slots = s ∧ (c.run s).failed = (c.sayings []).1 :=
  ⟨messages_run c rfl, fun _ _ _ => eq_of_returned_mem, run_slots c s, failed_run c [] s⟩

/-- A method that is suspended fails inside of one that is not: its messages have its own context,
and those before and after it that of the outer one. -/
theorem prefixed_run_nested :
    let outer : Method := ⟨["crate", "Pack"], true, false, false⟩
    let inner : Method := ⟨["Client"], true, false, true⟩
    let say (text : String) : Code := .say ⟨.info, text, some "safe4337"⟩
    let c : Code := .call outer (.seq (say "before")
      (.seq (.attempt (.call inner (.seq (say "inside") .fail))) (say "after")))
    messages (c.run {}).events
        = [⟨.info, "[Safe4337][Pack] before"⟩, ⟨.info, "[Safe4337][Client] inside"⟩,
          ⟨.info, "[Safe4337][Pack] after"⟩]
      ∧ ∀ before after, .returned inner before after ∈ (c.run {}).events → after = before := by
  intro outer inner say c
  obtain ⟨hmessages, hreturned, -⟩ := prefixed_run c {}
  refine ⟨hmessages.trans (by decide), hreturned inner⟩

end SafeOps.Log
