import SafeOps.Text.Digits
import SafeOps.Width

/-!
# `SafeOps.TypedData.TypeName`: names of types as they are written

The type of a member is written as a root and the arrays around it: `[]` for an array of any
length and `[3]` for one of three items. A root is an identifier. A point and perhaps another
identifier may follow it, which is how the values of an enumeration are named, and these are
bytes. A tuple in parentheses is a root too, but no message has values for it.

Readers that return the text after what they read carry a fuel where tuples nest; it starts at
the length of the text, of which each call uses at least one character.
-/

set_option autoImplicit false

namespace SafeOps.TypedData.TypeName

/-! ## Roots -/

/-- Whether a character may start an identifier. -/
def isStart (c : Char) : Bool :=
  c.isAlpha || c == '_' || c == '$'

/-- Whether a character may go on an identifier. -/
def isInner (c : Char) : Bool :=
  c.isAlphanum || c == '_' || c == '$'

/-- What follows an identifier; nothing if there is none. -/
def afterIdentifier? : List Char → Option (List Char)
  | [] => none
  | c :: cs => if isStart c then some (cs.dropWhile isInner) else none

/-- What follows a root that is no tuple; nothing if there is none. -/
def afterRoot? (cs : List Char) : Option (List Char) :=
  (afterIdentifier? cs).map fun rest =>
    match rest with
    | '.' :: tail => (afterIdentifier? tail).getD tail
    | _ => rest

/-- The type of the values of an enumeration. -/
def enumeration : String := "uint8"

/-- The type that a root stands for. If the text is no root then the answer is how many
characters of it could be one. -/
def readRoot (text : String) : Except Nat String :=
  let cs := text.toList
  match afterRoot? cs with
  | some [] => .ok (if cs.contains '.' then enumeration else text)
  | some rest => .error (cs.length - rest.length)
  | none => .error 0

/-- Whether a text is a root that is no tuple. -/
def isRoot (text : String) : Bool :=
  afterRoot? text.toList = some []

/-! ## Arrays -/

/-- The lengths of arrays at the start of a text, innermost first, and the rest. An array with
a length has at least one item. -/
def readLengths : Nat → List Char → Option (List (Option Nat) × List Char)
  | fuel + 1, '[' :: rest => do
    let digits := rest.takeWhile Char.isDigit
    match rest.dropWhile Char.isDigit with
    | ']' :: tail =>
      let n := Text.decimalValue digits
      let length ←
        if digits.isEmpty then some none
        else if 1 ≤ n ∧ n < limit 64 then some (some n) else none
      let (lengths, tail') ← readLengths fuel tail
      return (length :: lengths, tail')
    | _ => none
  | _, cs => some ([], cs)

/-- The root of a type. -/
def rootText (type : String) : String :=
  String.ofList (type.toList.takeWhile (· ≠ '['))

/-- The lengths of the arrays around the root of a type, innermost first. -/
def lengths (type : String) : List (Option Nat) :=
  let cs := type.toList.dropWhile (· ≠ '[')
  ((readLengths cs.length cs).map Prod.fst).getD []

/-! ## Whole types -/

/-- The text after blanks. -/
def skipBlanks (cs : List Char) : List Char :=
  cs.dropWhile fun c => c == ' ' || c == '\t'

/-- The text behind the opening parenthesis of a tuple. -/
def insideTuple? : List Char → Option (List Char)
  | '(' :: rest => some rest
  | 't' :: 'u' :: 'p' :: 'l' :: 'e' :: '(' :: rest => some rest
  | _ => none

mutual

/-- What follows a type; nothing if there is none. -/
def afterType? : Nat → List Char → Option (List Char)
  | 0, _ => none
  | fuel + 1, cs => do
    let rest ←
      match insideTuple? cs with
      | some inside =>
        match skipBlanks inside with
        | ')' :: rest => some rest
        | items => afterItems? fuel items
      | none => afterRoot? cs
    let (_, rest') ← readLengths rest.length rest
    return rest'

/-- What follows the items of a tuple and its closing parenthesis. A comma may stand behind the
last item. -/
def afterItems? : Nat → List Char → Option (List Char)
  | 0, _ => none
  | fuel + 1, cs =>
    match afterType? fuel cs with
    | some (',' :: rest) =>
      match skipBlanks rest with
      | ')' :: rest' => some rest'
      | items => afterItems? fuel items
    | some rest =>
      match skipBlanks rest with
      | ')' :: rest' => some rest'
      | _ => none
    | none => none

end

/-- Whether a text is a type. -/
def isType (text : String) : Bool :=
  let cs := text.toList
  -- A tuple takes two calls for each item.
  afterType? (2 * cs.length + 1) cs = some []

end SafeOps.TypedData.TypeName
