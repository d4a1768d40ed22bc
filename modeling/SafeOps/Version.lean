import SafeOps.Text.Blank
import SafeOps.Text.Quoted
import SafeOps.Text.Split
import SafeOps.Width

/-!
# `SafeOps.Version`: semantic versions

A version has three numbers of 64 bits, pre-release identifiers and build metadata.
`Version.read` takes the strict form `1.2.3-pre.1+build`. `Version.readLoose` also
takes blanks around it, any number of letters `v` in front, and a text with a single
dot, to which `.0` is added: some accounts report `1.4`.

`Version.compare` orders versions by their numbers, then by their pre-release
identifiers (a version without any comes last), then by their build metadata (a version
without any comes first).
-/

set_option autoImplicit false

namespace SafeOps

/-- A semantic version. -/
structure Version where
  major : BitVec 64
  minor : BitVec 64
  patch : BitVec 64
  /-- The identifiers after the hyphen. -/
  pre : List String
  /-- The identifiers after the plus sign. -/
  build : List String
  deriving DecidableEq, Repr

namespace Version

/-! ## Text -/

/-- A version that has numbers only. -/
def release (major minor patch : BitVec 64) : Version :=
  ⟨major, minor, patch, [], []⟩

/-- Identifiers with dots in between. -/
def dotted (segments : List String) : String :=
  String.intercalate "." segments

/-- The text of a version. -/
def text (v : Version) : String :=
  toString v.major.toNat ++ "." ++ toString v.minor.toNat ++ "." ++ toString v.patch.toNat
    ++ (if v.pre.isEmpty then "" else "-" ++ dotted v.pre)
    ++ (if v.build.isEmpty then "" else "+" ++ dotted v.build)

/-! ## Reading -/

/-- A part of a version text. -/
inductive Part where
  | major
  | minor
  | patch
  | pre
  | build
  deriving DecidableEq, Repr

/-- The name of a part. -/
def Part.name : Part → String
  | .major => "major version number"
  | .minor => "minor version number"
  | .patch => "patch version number"
  | .pre => "pre-release identifier"
  | .build => "build metadata"

/-- Why a text is no version. -/
inductive Fault where
  | empty
  /-- The text ends where `part` or the dot after it should stand. -/
  | unexpectedEnd (part : Part)
  /-- The character stands where `part` should start. -/
  | unexpected (c : Char) (part : Part)
  /-- The character stands where `part` has ended. -/
  | unexpectedAfter (c : Char) (part : Part)
  | leadingZero (part : Part)
  | tooLarge (part : Part)
  | emptySegment (part : Part)
  deriving DecidableEq, Repr

/-- The fault in words. -/
def Fault.message : Fault → String
  | .empty => "empty string, expected a semver version"
  | .unexpectedEnd part => "unexpected end of input while parsing " ++ part.name
  | .unexpected c part =>
    "unexpected character " ++ Text.quoteChar c ++ " while parsing " ++ part.name
  | .unexpectedAfter c part =>
    "unexpected character " ++ Text.quoteChar c ++ " after " ++ part.name
  | .leadingZero part => "invalid leading zero in " ++ part.name
  | .tooLarge part => "value of " ++ part.name ++ " exceeds u64::MAX"
  | .emptySegment part => "empty identifier segment in " ++ part.name

/-- Whether digits start with a zero that does not stand alone. -/
def hasLeadingZero : List Char → Bool
  | '0' :: _ :: _ => true
  | _ => false

/-- A number, with the text after it. -/
def readNumber (part : Part) (cs : List Char) : Except Fault (BitVec 64 × List Char) :=
  let ds := cs.takeWhile Char.isDigit
  match ds, cs with
  | [], [] => .error (.unexpectedEnd part)
  | [], c :: _ => .error (.unexpected c part)
  | _ :: _, _ =>
    -- A leading zero is noticed at the second digit, before the number can get too large.
    if hasLeadingZero ds then .error (.leadingZero part)
    else if limit 64 ≤ Text.decimalValue ds then .error (.tooLarge part)
    else .ok (BitVec.ofNat 64 (Text.decimalValue ds), cs.dropWhile Char.isDigit)

/-- The text after the dot that follows `part`. -/
def readDot (part : Part) : List Char → Except Fault (List Char)
  | '.' :: rest => .ok rest
  | c :: _ => .error (.unexpectedAfter c part)
  | [] => .error (.unexpectedEnd part)

/-- Whether a character may stand in an identifier. -/
def isIdentifierChar (c : Char) : Bool :=
  c.isAlphanum || c == '-'

/-- Checks one identifier. A pre-release number must not start with a zero. -/
def readSegment (part : Part) (cs : List Char) : Except Fault String :=
  if cs.isEmpty then .error (.emptySegment part)
  else if part = .pre ∧ cs.all Char.isDigit ∧ hasLeadingZero cs then .error (.leadingZero part)
  else .ok (String.ofList cs)

/-- The identifiers at the start of a text, with the text after them. -/
def readSegments (part : Part) (cs : List Char) : Except Fault (List String × List Char) := do
  let belongs (c : Char) := isIdentifierChar c || c == '.'
  let segments ← (Text.splitOn '.' (cs.takeWhile belongs)).mapM (readSegment part)
  return (segments, cs.dropWhile belongs)

/-- The identifiers behind a mark, if the mark is there. -/
def readMarked (mark : Char) (part : Part) (cs : List Char) :
    Except Fault (List String × List Char) :=
  match cs with
  | c :: rest => if c = mark then readSegments part rest else .ok ([], cs)
  | [] => .ok ([], [])

/-- The last part that was read, for the message about what follows it. -/
def lastPart (pre build : List String) : Part :=
  if !build.isEmpty then .build else if !pre.isEmpty then .pre else .patch

/-- Reads the strict form of a version. -/
def readChars (cs : List Char) : Except Fault Version :=
  if cs.isEmpty then .error .empty
  else do
    let (major, cs) ← readNumber .major cs
    let cs ← readDot .major cs
    let (minor, cs) ← readNumber .minor cs
    let cs ← readDot .minor cs
    let (patch, cs) ← readNumber .patch cs
    let (pre, cs) ← readMarked '-' .pre cs
    let (build, cs) ← readMarked '+' .build cs
    match cs with
    | [] => .ok ⟨major, minor, patch, pre, build⟩
    -- What is left follows the last part that was there.
    | c :: _ => .error (.unexpectedAfter c (lastPart pre build))

/-- Reads the strict form of a version. -/
def read (s : String) : Except Fault Version :=
  readChars s.toList

/-- The text without its leading letters `v`. -/
def stripMarks (cs : List Char) : List Char :=
  cs.dropWhile (· == 'v')

/-- The text with `.0` added if it has exactly one dot. -/
def complete (cs : List Char) : List Char :=
  if cs.count '.' = 1 then cs ++ ['.', '0'] else cs

/-- Reads a version that may have blanks around it, letters `v` in front and only two
numbers. -/
def readLoose (s : String) : Except Fault Version :=
  readChars (complete (stripMarks (Text.trimChars s.toList)))

/-! ## Order -/

/-- The order of texts by their characters. -/
def compareText (a b : List Char) : Ordering :=
  match a, b with
  | [], [] => .eq
  | [], _ :: _ => .lt
  | _ :: _, [] => .gt
  | x :: xs, y :: ys =>
    match Ord.compare x.toNat y.toNat with
    | .eq => compareText xs ys
    | other => other

/-- The order of two numbers given by their digits, a number with fewer leading zeros
coming before its equals. -/
def compareDigits (a b : List Char) : Ordering :=
  (Ord.compare (Text.decimalValue a) (Text.decimalValue b)).then (Ord.compare a.length b.length)

/-- The order of two identifiers: numbers come before other identifiers. -/
def compareSegment (a b : String) : Ordering :=
  match a.toList.all Char.isDigit, b.toList.all Char.isDigit with
  | true, true => compareDigits a.toList b.toList
  | true, false => .lt
  | false, true => .gt
  | false, false => compareText a.toList b.toList

/-- The order of identifier lists: by the first difference, a shorter list first. -/
def compareSegments : List String → List String → Ordering
  | [], [] => .eq
  | [], _ :: _ => .lt
  | _ :: _, [] => .gt
  | a :: as, b :: bs => (compareSegment a b).then (compareSegments as bs)

/-- The order of pre-releases: no identifiers come last. -/
def comparePre : List String → List String → Ordering
  | [], [] => .eq
  | [], _ :: _ => .gt
  | _ :: _, [] => .lt
  | as, bs => compareSegments as bs

/-- The order of versions. -/
def compare (a b : Version) : Ordering :=
  (Ord.compare a.major.toNat b.major.toNat).then <|
  (Ord.compare a.minor.toNat b.minor.toNat).then <|
  (Ord.compare a.patch.toNat b.patch.toNat).then <|
  (comparePre a.pre b.pre).then (compareSegments a.build b.build)

/-- Whether `v` is `least` or later. -/
def atLeast (v least : Version) : Bool :=
  compare v least != .lt

end Version

end SafeOps
