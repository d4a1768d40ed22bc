import SafeOps.Json.Codec
import SafeOps.Json.Reader

/-!
# `SafeOps.Json.Outline`: texts of which only a part is read

Who asks a service for one thing may be told others too. What nobody reads has to have the form of
JSON, but no more than that: the bytes of a string need not be text nor its surrogates pairs,
a number may have any size, and containers may be nested to any depth. So a text is cut into
the texts of its outermost keys and values first (`outline`), which are followed byte by byte,
and what matters is read from these.

`readRecord` finds the members of a record in such a text. As everywhere, a list is taken for a
record too. The keys of an object are all read, and of those that matter none may be repeated.

Every function that follows a text returns what is left of it, or nothing if the form is broken.
`skipEntries` carries a fuel for the entries of one container, `skipValue` one for their nesting.
-/

set_option autoImplicit false

namespace SafeOps.Json

/-! ## Containers -/

/-- What holds values: an array, or an object, where they have keys. -/
inductive Frame where
  | array
  | object
  deriving DecidableEq, Repr

namespace Frame

/-- The byte a container starts with: a bracket or a brace. -/
def opening : Frame → UInt8
  | .array => 91
  | .object => 123

/-- The byte a container ends with. -/
def closing : Frame → UInt8
  | .array => 93
  | .object => 125

/-- The container that starts with a byte. -/
def opened? (b : UInt8) : Option Frame :=
  [Frame.array, .object].find? fun f => f.opening = b

end Frame

/-- The text of a value in a container, with the text of its key; in an array that is empty. -/
structure Entry where
  key : Bytes
  value : Bytes
  deriving DecidableEq, Repr

/-! ## What is passed over -/

/-- The part of a text that stands before what is left of it. -/
def before (text rest : Bytes) : Bytes :=
  text.take (text.length - rest.length)

/-- The blanks of JSON: a space, a tab and the two ends of a line. -/
def blanks : Bytes :=
  [32, 9, 10, 13]

/-- Whether a byte is a blank. -/
def isBlank (b : UInt8) : Bool :=
  b ∈ blanks

/-- The text after blanks. -/
def dropBlanks (text : Bytes) : Bytes :=
  text.dropWhile isBlank

/-- What may follow a backslash alone: a quote, a backslash, a slash and the letters of five
controls. -/
def shortEscapes : Bytes :=
  [34, 92, 47, 98, 102, 110, 114, 116]

/-- Whether a byte is a hexadecimal digit. -/
def isHexDigit (b : UInt8) : Bool :=
  (Text.digit? 16 b.toNat).isSome

/-- The text after a string, whose opening quote is gone already. -/
def skipString : Bytes → Option Bytes
  | [] => none
  | 34 :: rest => some rest
  -- Four digits stand for a character; whether there is one is not asked.
  | 92 :: 117 :: a :: b :: c :: d :: rest =>
    if [a, b, c, d].all isHexDigit then skipString rest else none
  | 92 :: b :: rest => if b ∈ shortEscapes then skipString rest else none
  | b :: rest => if b = 92 ∨ b < 32 then none else skipString rest

/-- Whether a byte is a decimal digit. -/
def isDigit (b : UInt8) : Bool :=
  (Text.digit? 10 b.toNat).isSome

/-- The text after digits, of which there must be one at least. -/
def skipDigits : Bytes → Option Bytes
  | [] => none
  | b :: rest => if isDigit b then some (rest.dropWhile isDigit) else none

/-- The text after the digits before a point: one zero, or digits that do not start with zero. -/
def skipWhole : Bytes → Option Bytes
  | 48 :: rest => some rest
  | text => skipDigits text

/-- The text after a point with its digits, if there is one. -/
def skipFraction : Bytes → Option Bytes
  | 46 :: rest => skipDigits rest
  | text => some text

/-- The text after a plus or a minus, if there is one. -/
def skipSign : Bytes → Bytes
  | 43 :: rest => rest
  | 45 :: rest => rest
  | text => text

/-- The text after an exponent, if there is one. -/
def skipExponent : Bytes → Option Bytes
  | 69 :: rest => skipDigits (skipSign rest)
  | 101 :: rest => skipDigits (skipSign rest)
  | text => some text

/-- The text after a minus, if there is one. -/
def skipMinus : Bytes → Bytes
  | 45 :: rest => rest
  | text => text

/-- The text after a number. -/
def skipNumber (text : Bytes) : Option Bytes := do
  skipExponent (← skipFraction (← skipWhole (skipMinus text)))

/-- The text `null`. -/
def nullText : Bytes := [110, 117, 108, 108]

/-- The words that are values: `null`, `true` and `false`. -/
def words : List Bytes :=
  [nullText, [116, 114, 117, 101], [102, 97, 108, 115, 101]]

/-! ## Entries -/

/-- The text of the key of an entry, and the text where its value starts. -/
def skipKey : Frame → Bytes → Option (Bytes × Bytes)
  | .array, text => some ([], dropBlanks text)
  | .object, text =>
    match dropBlanks text with
    | 34 :: rest => do
      let afterKey ← skipString rest
      match dropBlanks afterKey with
      | 58 :: rest' => some (before (34 :: rest) afterKey, dropBlanks rest')
      | _ => none
    | _ => none

/-- The entries from here to the end of a container, of which there must be one at least, with the
text after them. -/
def skipEntries (skip : Bytes → Option Bytes) (f : Frame) :
    Nat → Bytes → Option (List Entry × Bytes)
  | 0, _ => none
  | fuel + 1, text => do
    let (key, start) ← skipKey f text
    let afterValue ← skip start
    let entry : Entry := ⟨key, before start afterValue⟩
    match dropBlanks afterValue with
    | [] => none
    | b :: rest =>
      if b = 44 then do
        let (entries, rest') ← skipEntries skip f fuel rest
        return (entry :: entries, rest')
      else if b = f.closing then some ([entry], rest)
      else none

/-- The entries of a container whose first byte is gone already, with the text after it. -/
def skipFrame (skip : Bytes → Option Bytes) (f : Frame) (text : Bytes) :
    Option (List Entry × Bytes) :=
  match dropBlanks text with
  | [] => none
  | b :: rest => if b = f.closing then some ([], rest) else skipEntries skip f text.length text

/-- The text after a value. -/
def skipValue : Nat → Bytes → Option Bytes
  | 0, _ => none
  | _ + 1, [] => none
  | fuel + 1, b :: rest =>
    if b = 34 then skipString rest
    else
      match Frame.opened? b with
      | some f => (skipFrame (skipValue fuel) f rest).map Prod.snd
      | none =>
        match words.find? fun word => word.isPrefixOf (b :: rest) with
        | some word => some ((b :: rest).drop word.length)
        | none => skipNumber (b :: rest)

/-- The outermost container of a text with its entries; nothing if the text has not the form of a
container. -/
def outline (text : Bytes) : Option (Frame × List Entry) :=
  match dropBlanks text with
  | [] => none
  | b :: rest => do
    let f ← Frame.opened? b
    let (entries, rest') ← skipFrame (skipValue text.length) f rest
    if (dropBlanks rest').isEmpty then some (f, entries) else none

/-- The members of a record's text whose fields have the given keys, with the texts of their
values. -/
def readRecord (keys : List String) (text : Bytes) : Option (List (String × Bytes)) := do
  match ← outline text with
  | (.array, entries) =>
    if entries.length ≤ keys.length then some (keys.zip (entries.map Entry.value)) else none
  | (.object, entries) => do
    let members ← entries.mapM fun e => return (← toText (← readBytes 0 e.key), e.value)
    if keys.any fun key => 1 < (members.map Prod.fst).count key then none else some members

end SafeOps.Json
