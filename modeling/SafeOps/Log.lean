/-!
# `SafeOps.Log`: messages for the host

The library tells its host what it does. A message has a level, and in front of it
stands the context in which it was written. Messages of other libraries pass through the
same way, but their verbose ones are dropped.

The host installs one receiver; installing another one later has no effect.
-/

set_option autoImplicit false

namespace SafeOps.Log

/-- How much a message matters. -/
inductive Level where
  | trace
  | debug
  | info
  | warn
  | error
  deriving DecidableEq, Repr

/-- Whether a level is for people who look closely. -/
def Level.isVerbose : Level → Bool
  | .trace => true
  | .debug => true
  | _ => false

/-- A message as the host receives it. -/
structure Message where
  level : Level
  text : String
  deriving DecidableEq, Repr

/-- A message on its way, with the path of the module it comes from. -/
structure Record where
  level : Level
  text : String
  modulePath : Option String
  deriving DecidableEq, Repr

/-- The start of the paths of this library's modules. -/
def ownPath : String := "safe4337"

/-- Whether a path belongs to this library. -/
def isOwn (modulePath : Option String) : Bool :=
  match modulePath with
  | some path => ownPath.toList.isPrefixOf path.toList
  | none => false

/-- The messages that reach the host for a record: none if it is verbose and comes from
elsewhere. -/
def Record.deliver (r : Record) : List Message :=
  if r.level.isVerbose && !isOwn r.modulePath then [] else [⟨r.level, r.text⟩]

/-- A message behind the context it was written in. -/
def inContext (context : Option String) (text : String) : String :=
  match context with
  | some c => c ++ " " ++ text
  | none => text

/-- The receiver of a host, if it installed one. -/
structure Hub (ρ : Type) where
  receiver : Option ρ := none

/-- Installs a receiver unless there is one. -/
def Hub.install {ρ : Type} (h : Hub ρ) (receiver : ρ) : Hub ρ :=
  ⟨h.receiver.or (some receiver)⟩

theorem Hub.install_install {ρ : Type} (h : Hub ρ) (first second : ρ) :
    (h.install first).install second = h.install first := by
  cases h with
  | mk r => cases r <;> rfl

end SafeOps.Log
