import SafeOps.Json
import SafeOps.Text.Quoted

/-!
# `SafeOps.TypedData.Fault`: why a message has no hash

The types of a message are looked at before its values, and a fault names the first type or
value that does not fit.
-/

set_option autoImplicit false

namespace SafeOps.TypedData

/-- Why a message has no hash. -/
inductive Fault where
  /-- A record type contains itself. -/
  | circular (type : String)
  /-- The text is no name of a type, which is noticed behind so many characters. -/
  | noName (text : String) (position : Nat)
  /-- There is no such type. -/
  | missing (type : String)
  /-- The type is no record type, so a message cannot have it. -/
  | noRecord (type : String)
  /-- The value does not have its type. -/
  | mismatch (type : String) (value : Json)
  deriving Repr

/-- The fault in words. -/
def Fault.message : Fault → String
  | .circular type => "circular dependency: " ++ type
  | .noName text position =>
    "parser error:\n" ++ text ++ "\n" ++ String.ofList (List.replicate position ' ') ++ "^\n"
  | .missing type => "missing type in type resolution: " ++ type
  | .noRecord type => "not a record type: " ++ type
  | .mismatch type value =>
    "type mismatch: expected type " ++ Text.quoteText type ++ ", got value with type "
      ++ Text.quoteText value.sorted.render

end SafeOps.TypedData
