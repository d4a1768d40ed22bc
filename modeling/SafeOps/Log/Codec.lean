import SafeOps.Json.Field
import SafeOps.Log

/-!
# `SafeOps.Log.Codec`: messages as JSON
-/

set_option autoImplicit false

namespace SafeOps.Log

namespace Level

/-- The name of a level. -/
def name : Level → String
  | .trace => "Trace"
  | .debug => "Debug"
  | .info => "Info"
  | .warn => "Warn"
  | .error => "Error"

/-- The level with a name, in any case of letters. -/
def ofName? (name : String) : Option Level :=
  [Level.trace, .debug, .info, .warn, .error].find? fun l => l.name.toLower = name.toLower

end Level

/-- Writes a message. -/
def Message.toJson (m : Message) : Json :=
  .obj [("level", .str m.level.name), ("message", .str m.text)]

/-- Writes messages. -/
def Message.listToJson (ms : List Message) : Json :=
  .arr (ms.map toJson)

/-- Reads a record. -/
def Record.ofJson? (j : Json) : Option Record := do
  return {
    level := ← Json.field j "level" fun l => do Level.ofName? (← Json.toText l)
    text := ← Json.field j "message" Json.toText
    modulePath := ← Json.field? j "module_path" Json.toText }

end SafeOps.Log
