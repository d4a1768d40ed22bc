import SafeOps.Json
import SafeOps.Text.Digits
import SafeOps.Text.Utf8

/-!
# `SafeOps.Json.Reader`: reading JSON text

The reader accepts exactly one value with blanks around it. It is strict: no trailing
comma, no leading zero, no control character inside a string, surrogates only in
pairs, and at most 127 arrays and objects inside each other.

A number without fraction and exponent that fits 64 bits is an integer; `-0` and all
other numbers are rounded to a binary fraction, and one that is too large is refused.

Every function that follows the text returns what is left of it. `readValue` and the
two loops of arrays and objects carry a fuel that starts at the length of the text, of
which each call uses at least one character.
-/

set_option autoImplicit false

namespace SafeOps.Json

/-- The text after blanks. JSON knows four of them. -/
def skipBlanks : List Char → List Char
  | ' ' :: rest => skipBlanks rest
  | '\t' :: rest => skipBlanks rest
  | '\n' :: rest => skipBlanks rest
  | '\r' :: rest => skipBlanks rest
  | cs => cs

/-- The character of a single-letter escape. -/
def simpleEscape? : Char → Option Char
  | '"' => some '"'
  | '\\' => some '\\'
  | '/' => some '/'
  | 'b' => some '\x08'
  | 'f' => some '\x0C'
  | 'n' => some '\n'
  | 'r' => some '\r'
  | 't' => some '\t'
  | _ => none

/-- The rest of a string after its opening quote. `acc` holds what was read, last
character first. A leading surrogate is held back until its partner follows. -/
def readString : List Char → List Char → Option Nat → Option (String × List Char)
  | [], _, _ => none
  | '\\' :: 'u' :: a :: b :: c :: d :: rest, acc, lead? =>
    match Text.digits? 16 [a, b, c, d], lead? with
    | none, _ => none
    | some unit, some lead =>
      -- The second half of a pair completes the character held back.
      if 0xDC00 ≤ unit ∧ unit ≤ 0xDFFF then
        readString rest (Char.ofNat (0x10000 + (lead - 0xD800) * 1024 + (unit - 0xDC00)) :: acc) none
      else none
    | some unit, none =>
      -- A first half is held back, and a second half alone is no character.
      if 0xD800 ≤ unit ∧ unit ≤ 0xDBFF then readString rest acc (some unit)
      else if 0xDC00 ≤ unit ∧ unit ≤ 0xDFFF then none
      else readString rest (Char.ofNat unit :: acc) none
  | '\\' :: c :: rest, acc, none =>
    match simpleEscape? c with
    | some e => readString rest (e :: acc) none
    | none => none
  | '"' :: rest, acc, none => some (String.ofList acc.reverse, rest)
  | c :: rest, acc, none => if c.toNat < 32 then none else readString rest (c :: acc) none
  | _ :: _, _, some _ => none

/-- The digits at the start of a text and the rest. -/
def spanDigits (cs : List Char) : List Char × List Char :=
  (cs.takeWhile Char.isDigit, cs.dropWhile Char.isDigit)

/-- The digits before a fraction: one zero, or digits that do not start with zero. -/
def readWhole : List Char → Option (List Char × List Char)
  | '0' :: rest => some (['0'], rest)
  | cs =>
    match spanDigits cs with
    | ([], _) => none
    | (ds, rest) => some (ds, rest)

/-- The digits of the fraction, if there is one. -/
def readFraction : List Char → Option (Option (List Char) × List Char)
  | '.' :: rest =>
    match spanDigits rest with
    | ([], _) => none
    | (ds, rest') => some (some ds, rest')
  | cs => some (none, cs)

/-- Whether the exponent is negative; its sign may be missing. -/
def readSign : List Char → Bool × List Char
  | '+' :: rest => (false, rest)
  | '-' :: rest => (true, rest)
  | cs => (false, cs)

/-- The exponent, zero if there is none, and whether there is one. -/
def readExponent : List Char → Option ((Int × Bool) × List Char)
  | c :: rest =>
    if c = 'e' ∨ c = 'E' then
      let (negative, unsigned) := readSign rest
      match spanDigits unsigned with
      | ([], _) => none
      | (ds, rest') =>
        let n : Int := Text.decimalValue ds
        some ((if negative then -n else n, true), rest')
    else some ((0, false), c :: rest)
  | [] => some ((0, false), [])

/-- A number, with the text after it. -/
def readNumber (cs : List Char) : Option (Json × List Char) := do
  let (negative, unsigned) := match cs with
    | '-' :: rest => (true, rest)
    | _ => (false, cs)
  let (whole, afterWhole) ← readWhole unsigned
  let (fraction?, afterFraction) ← readFraction afterWhole
  let ((exponent, isScaled), rest) ← readExponent afterFraction
  let n := Text.decimalValue whole
  -- Minus zero is no integer, and neither is what does not fit 64 bits.
  let isInteger := fraction?.isNone && !isScaled &&
    if negative then n ≠ 0 && n ≤ limit 63 else n < limit 64
  if isInteger then return (.int (if negative then -(n : Int) else n), rest)
  else
    let value ← Number.ofDigits? negative whole (fraction?.getD []) exponent
    return (.real value, rest)

/-- The text after a word that must stand at its start. -/
def expect (word : List Char) (cs : List Char) : Option (List Char) :=
  if word.isPrefixOf cs then some (cs.drop word.length) else none

mutual

/-- A value, with the text after it. `depth` bounds the nesting of containers. -/
def readValue : Nat → Nat → List Char → Option (Json × List Char)
  | 0, _, _ => none
  | fuel + 1, depth, cs =>
    match cs with
    | [] => none
    | '"' :: rest => do
      let (s, rest') ← readString rest [] none
      return (.str s, rest')
    | 'n' :: _ => do return (.null, ← expect ['n', 'u', 'l', 'l'] cs)
    | 't' :: _ => do return (.bool true, ← expect ['t', 'r', 'u', 'e'] cs)
    | 'f' :: _ => do return (.bool false, ← expect ['f', 'a', 'l', 's', 'e'] cs)
    | '[' :: rest =>
      match depth with
      | 0 => none
      | depth + 1 =>
        match skipBlanks rest with
        | ']' :: rest' => some (.arr [], rest')
        | rest' => readItems fuel depth rest' []
    | '\x7b' :: rest =>
      match depth with
      | 0 => none
      | depth + 1 =>
        match skipBlanks rest with
        | '\x7d' :: rest' => some (.obj [], rest')
        | rest' => readMembers fuel depth rest' []
    | _ => readNumber cs

/-- The items of an array up to its end; `acc` holds those before, last one first. -/
def readItems : Nat → Nat → List Char → List Json → Option (Json × List Char)
  | 0, _, _, _ => none
  | fuel + 1, depth, cs, acc => do
    let (item, rest) ← readValue fuel depth (skipBlanks cs)
    match skipBlanks rest with
    | ',' :: rest' => readItems fuel depth rest' (item :: acc)
    | ']' :: rest' => some (.arr (item :: acc).reverse, rest')
    | _ => none

/-- The members of an object up to its end; `acc` holds those before, last one first. -/
def readMembers : Nat → Nat → List Char → List (String × Json) → Option (Json × List Char)
  | 0, _, _, _ => none
  | fuel + 1, depth, cs, acc =>
    match skipBlanks cs with
    | '"' :: rest => do
      let (key, afterKey) ← readString rest [] none
      match skipBlanks afterKey with
      | ':' :: rest' => do
        let (value, rest'') ← readValue fuel depth (skipBlanks rest')
        match skipBlanks rest'' with
        | ',' :: next => readMembers fuel depth next ((key, value) :: acc)
        | '\x7d' :: next => some (.obj ((key, value) :: acc).reverse, next)
        | _ => none
      | _ => none
    | _ => none

end

/-- How many arrays and objects may stand inside each other. -/
def maxDepth : Nat := 127

/-- The value that characters hold, with no more than `depth` containers inside each other. -/
def readChars (depth : Nat) (cs : List Char) : Option Json := do
  let (value, rest) ← readValue (cs.length + 1) depth (skipBlanks cs)
  if (skipBlanks rest).isEmpty then some value else none

/-- The value a text holds. -/
def read (text : String) : Option Json :=
  readChars maxDepth text.toList

/-- The value that the bytes of a text hold, with no more than `depth` containers inside each
other. -/
def readBytes (depth : Nat) (text : Bytes) : Option Json := do
  readChars depth (← Text.Utf8.decode? text)

end SafeOps.Json
