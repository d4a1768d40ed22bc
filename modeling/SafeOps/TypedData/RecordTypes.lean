import SafeOps.TypedData.Fault
import SafeOps.TypedData.Member
import SafeOps.TypedData.TypeName
import SafeOps.TypedData.ValueType

/-!
# `SafeOps.TypedData.RecordTypes`: the record types of a message

The members of a record may be records too, and arrays of them. What a record type says is
written as its own text, followed by those of all the record types it leads to, in
alphabetical order. A type that leads to itself has no values.

A walk from type to type visits none of them twice on one way, so it is over after as many
steps as there are types, and one more for a scalar.
-/

set_option autoImplicit false

namespace SafeOps.TypedData

/-- Record types by their names. -/
abbrev RecordTypes := List (String × List Member)

/-! ## Order -/

/-- Puts a text into an ascending list of texts, once. -/
def insertText (s : String) : List String → List String
  | [] => [s]
  | t :: ts => if s < t then s :: t :: ts else if s = t then t :: ts else t :: insertText s ts

/-- Texts in ascending order, each of them once. -/
def sortTexts (texts : List String) : List String :=
  texts.foldr insertText []

namespace RecordTypes

/-! ## What types lead to -/

/-- The roots of the types of members. -/
def roots (members : List Member) : List String :=
  sortTexts (members.map fun m => TypeName.rootText m.type)

/-- The types that lead to nothing but scalars and types already known to. -/
def settle (types : RecordTypes) (known : List String) : List String :=
  (types.filter fun (_, members) =>
    (roots members).all fun root => (types.lookup root).isNone || known.contains root).map Prod.fst

/-- The types that do not lead to a type that contains itself. -/
def settled (types : RecordTypes) : List String :=
  types.foldl (fun known _ => settle types known) []

/-- Whether a type leads to a type that contains itself. -/
def isCircular (types : RecordTypes) (name : String) : Bool :=
  (types.lookup name).isSome && !(settled types).contains name

/-- The type a root stands for. -/
def root (text : String) : Except Fault String :=
  (TypeName.readRoot text).mapError (.noName text)

/-- Puts the record types that a root leads to behind those that are already `found`. -/
def collect (types : RecordTypes) : Nat → RecordTypes → String → Except Fault RecordTypes
  | 0, found, _ => .ok found
  | steps + 1, found, text => do
    let name ← root text
    if (ValueType.scalar? name).isSome then .ok found
    else
      match types.lookup name with
      | none => .error (.missing name)
      | some members =>
        if (found.lookup name).isSome then .ok found
        else (roots members).foldlM (collect types steps) (found ++ [(name, members)])

/-- How many steps a walk from type to type has at most. -/
def maxSteps (types : RecordTypes) : Nat :=
  types.length + 1

/-! ## Texts and types -/

/-- The written type of a record: its own text and those of the types it leads to. -/
def written (types : RecordTypes) (name : String) : Except Fault String := do
  if isCircular types name then .error (.circular name)
  else
    match ← collect types (maxSteps types) [] name with
    | [] => .error (.noRecord name)
    | (name, members) :: others =>
      let texts := sortTexts (others.map fun (name, members) => typeText name members)
      return typeText name members ++ String.join texts

/-- The type with a given name. -/
def resolve (types : RecordTypes) : Nat → String → Except Fault ValueType
  | 0, type => .error (.circular type)
  | steps + 1, type => do
    let name ← root (TypeName.rootText type)
    let inner ←
      match ValueType.scalar? name with
      | some scalar => pure scalar
      | none =>
        match types.lookup name with
        | none => .error (.missing name)
        | some members => do
          let fields ← members.mapM fun m => (resolve types steps m.type).map (m.name, ·)
          pure (.record (← written types name) fields)
    return (TypeName.lengths type).foldl ValueType.around inner

/-- The type of the records with a given name. -/
def recordType (types : RecordTypes) (name : String) : Except Fault ValueType := do
  -- What the type leads to is looked at before any of its values.
  let _ ← written types name
  resolve types (maxSteps types) name

end RecordTypes

end SafeOps.TypedData
