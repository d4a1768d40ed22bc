import SafeOps.Text.Split

/-!
# `SafeOps.TypedData.Member`: members of record types

A record type has a name and members, each with a type and a name of its own. It is written
as `Name(type name,…)`. `membersOf` reads the members back from a written type.
-/

set_option autoImplicit false

namespace SafeOps.TypedData

/-- A member of a record type. -/
structure Member where
  type : String
  name : String
  deriving DecidableEq, Repr

/-- A member as it stands in a written type. -/
def Member.text (m : Member) : String :=
  m.type ++ " " ++ m.name

/-- A written type. -/
def typeText (name : String) (members : List Member) : String :=
  name ++ "(" ++ String.intercalate "," (members.map Member.text) ++ ")"

/-- The member that stands in a written type; a piece without a space is none. -/
def memberOf (piece : List Char) : Option Member :=
  (Text.splitOnce ' ' piece).map fun (type, name) => ⟨String.ofList type, String.ofList name⟩

/-- What stands between the first opening parenthesis and a closing one at the end. -/
def betweenParens (cs : List Char) : List Char :=
  match Text.splitOnce '(' cs with
  | some (_, rest) => if rest.getLast? = some ')' then rest.dropLast else []
  | none => []

/-- The members of a written type. -/
def membersOf (type : String) : List Member :=
  (Text.splitOn ',' (betweenParens type.toList)).filterMap memberOf

end SafeOps.TypedData
