import SafeOps.Json.Number
import SafeOps.Quantity

/-!
# `SafeOps.Json`: values exchanged with services

A JSON value keeps the members of an object in the order they were written. Numbers
come in two kinds, since no field of this library takes a fraction: integers of at
most 64 bits, and everything else (`real`), rounded to a binary fraction.

`Json.member?` looks a key up; of a repeated key the last member counts, and an
absent member is `none` while a `null` one is not. `Json.render` writes the compact
text, and `Json.sorted` is the value with the members of its objects in order.
-/

set_option autoImplicit false

namespace SafeOps

/-- A JSON value. -/
inductive Json where
  | null
  | bool (value : Bool)
  /-- An integer between `-2^63` and `2^64 - 1`. -/
  | int (value : Int)
  /-- Any other number. -/
  | real (value : Binary64)
  | str (value : String)
  | arr (items : List Json)
  | obj (members : List (String × Json))
  deriving Repr, Inhabited

namespace Json

/-- The last member with the given key. -/
def lookup (key : String) : List (String × Json) → Option Json
  | [] => none
  | (k, v) :: rest =>
    match lookup key rest with
    | some w => some w
    | none => if k = key then some v else none

/-- The member of an object with the given key; nothing for other values. -/
def member? (key : String) : Json → Option Json
  | .obj members => lookup key members
  | _ => none

/-- The member with the given key, a `null` one counting as absent. -/
def present? (key : String) (j : Json) : Option Json :=
  match j.member? key with
  | some .null => none
  | other => other

/-- How often an object has the given key. -/
def countKey (key : String) : Json → Nat
  | .obj members => members.countP fun m => m.1 == key
  | _ => 0

/-- The escaped form of a character inside a string. -/
def escapeChar (c : Char) : List Char :=
  if c = '"' then ['\\', '"']
  else if c = '\\' then ['\\', '\\']
  else if c = '\n' then ['\\', 'n']
  else if c = '\r' then ['\\', 'r']
  else if c = '\t' then ['\\', 't']
  else if c.toNat = 8 then ['\\', 'b']
  else if c.toNat = 12 then ['\\', 'f']
  else if c.toNat < 32 then
    ['\\', 'u', '0', '0', Nat.digitChar (c.toNat / 16), Nat.digitChar (c.toNat % 16)]
  else [c]

/-- A string between double quotes. -/
def renderString (s : String) : String :=
  "\"" ++ String.ofList (s.toList.flatMap escapeChar) ++ "\""

/-- Texts with commas in between. -/
def joinCommas (parts : List String) : String :=
  String.intercalate "," parts

mutual

/-- The compact text of a value. -/
def render : Json → String
  | .null => "null"
  | .bool true => "true"
  | .bool false => "false"
  | .int n => toString n
  | .real value => Number.text value
  | .str s => renderString s
  | .arr items => "[" ++ joinCommas (renderItems items) ++ "]"
  | .obj members => "\x7b" ++ joinCommas (renderMembers members) ++ "\x7d"

/-- The texts of the items of an array. -/
def renderItems : List Json → List String
  | [] => []
  | j :: rest => render j :: renderItems rest

/-- The texts of the members of an object. -/
def renderMembers : List (String × Json) → List String
  | [] => []
  | (k, v) :: rest => (renderString k ++ ":" ++ render v) :: renderMembers rest

end

/-! ## Order of members -/

/-- Puts a member among members that are sorted by their keys, unless its key is there. -/
def insertMember (key : String) (value : Json) : List (String × Json) → List (String × Json)
  | [] => [(key, value)]
  | (k, v) :: rest =>
    if key < k then (key, value) :: (k, v) :: rest
    else if key = k then (k, v) :: rest
    else (k, v) :: insertMember key value rest

mutual

/-- The value with the members of all objects sorted by their keys; of a repeated key the last
member is kept. -/
def sorted : Json → Json
  | .arr items => .arr (sortedItems items)
  | .obj members => .obj (sortedMembers members)
  | j => j

/-- The items of an array, sorted inside. -/
def sortedItems : List Json → List Json
  | [] => []
  | j :: rest => sorted j :: sortedItems rest

/-- The members of an object, sorted by their keys and inside. -/
def sortedMembers : List (String × Json) → List (String × Json)
  | [] => []
  -- Later members are in their places already, so an earlier one with their key is dropped.
  | (k, v) :: rest => insertMember k (sorted v) (sortedMembers rest)

end

end Json

end SafeOps
