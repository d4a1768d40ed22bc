import SafeOps.Bytes
import SafeOps.Text.Digits

/-!
# `SafeOps.Timestamp`: points in time as text

A timestamp is a date, a time of day and a distance from the standard time, as in
`2024-09-10T09:31:12.5+02:00`. `Timestamp.read` gives the seconds since the start of
1970 in standard time, a fraction of a second being dropped and a leap second counting as
the second before it.

The text is checked from left to right: a date that does not exist is noticed once its
day is read, a time that does not exist after its fraction.
-/

set_option autoImplicit false

namespace SafeOps.Timestamp

/-- Why a text is no timestamp. -/
inductive Fault where
  | tooShort
  | invalid
  | outOfRange
  | trailing
  deriving DecidableEq, Repr

/-- The fault in words. -/
def Fault.message : Fault → String
  | .tooShort => "premature end of input"
  | .invalid => "input contains invalid characters"
  | .outOfRange => "input is out of range"
  | .trailing => "trailing input"

/-! ## Calendar -/

/-- Whether a year has a day more. -/
def isLeap (year : Nat) : Bool :=
  year % 4 = 0 && (year % 100 ≠ 0 || year % 400 = 0)

/-- The days of the months of a year. -/
def monthLengths (year : Nat) : List Nat :=
  [31, if isLeap year then 29 else 28, 31, 30, 31, 30, 31, 31, 30, 31, 30, 31]

/-- The days from the start of year zero to the start of a year. -/
def daysToYear (year : Nat) : Nat :=
  year * 365 + (year + 3) / 4 - (year + 99) / 100 + (year + 399) / 400

/-- A date. -/
structure Date where
  year : Nat
  month : Nat
  day : Nat
  deriving DecidableEq, Repr

/-- Whether there is such a date. -/
def Date.exists (d : Date) : Bool :=
  match d.month with
  | 0 => false
  | month + 1 =>
    match (monthLengths d.year)[month]? with
    | some length => 1 ≤ d.day && d.day ≤ length
    | none => false

/-- The days from the start of year zero to a date. -/
def Date.days (d : Date) : Nat :=
  daysToYear d.year + ((monthLengths d.year).take (d.month - 1)).foldl (· + ·) 0 + (d.day - 1)

/-- The days from the start of year zero to the start of 1970. -/
def epochDays : Nat := 719528

/-! ## Reading -/

/-- The value of a decimal digit. -/
def digit? (b : UInt8) : Option Nat :=
  Text.digit? 10 b.toNat

/-- A number of exactly `count` digits, with the text after it. -/
def readNumber : Nat → Nat → Bytes → Except Fault (Nat × Bytes)
  | 0, value, rest => .ok (value, rest)
  | _ + 1, _, [] => .error .tooShort
  | count + 1, value, b :: rest =>
    match digit? b with
    | some d => readNumber count (value * 10 + d) rest
    | none => .error .invalid

/-- The text after one of the given bytes. -/
def readMark (marks : List UInt8) : Bytes → Except Fault Bytes
  | [] => .error .tooShort
  | b :: rest => if b ∈ marks then .ok rest else .error .invalid

/-- A date, with the text after it. -/
def readDate (text : Bytes) : Except Fault (Date × Bytes) := do
  let (year, rest) ← readNumber 4 0 text
  let rest ← readMark [45] rest
  let (month, rest) ← readNumber 2 0 rest
  let rest ← readMark [45] rest
  let (day, rest) ← readNumber 2 0 rest
  let date : Date := ⟨year, month, day⟩
  -- A date that does not exist is refused before the time is looked at.
  if date.exists then .ok (date, rest) else .error .outOfRange

/-- The text after a fraction, if there is one: a point and at least one digit. -/
def skipFraction : Bytes → Except Fault Bytes
  | 46 :: rest =>
    match rest with
    | [] => .error .tooShort
    | b :: _ =>
      if (digit? b).isSome then .ok (rest.dropWhile fun b => (digit? b).isSome)
      else .error .invalid
  | rest => .ok rest

/-- The seconds from midnight to a time of day, with the text after it. -/
def readTime (text : Bytes) : Except Fault (Nat × Bytes) := do
  let (hour, rest) ← readNumber 2 0 text
  let rest ← readMark [58] rest
  let (minute, rest) ← readNumber 2 0 rest
  let rest ← readMark [58] rest
  let (second, rest) ← readNumber 2 0 rest
  let rest ← skipFraction rest
  -- The hour, minute and second are judged together, after the fraction.
  if 23 < hour ∨ 59 < minute ∨ 60 < second then .error .outOfRange
  else .ok (hour * 3600 + minute * 60 + min second 59, rest)

/-- The sign of a distance, with the text after it. A minus sign has two spellings. -/
def readSign : Bytes → Except Fault (Int × Bytes)
  | 43 :: rest => .ok (1, rest)
  | 45 :: rest => .ok (-1, rest)
  | 0xE2 :: 0x88 :: 0x92 :: rest => .ok (-1, rest)
  | [] => .error .tooShort
  | _ => .error .invalid

/-- Two digits, with the text after them; what is missing is noticed before what is
wrong. -/
def readPair (text : Bytes) : Except Fault (Nat × Bytes) :=
  if text.length < 2 then .error .tooShort else readNumber 2 0 text

/-- The distance from standard time in seconds, with the text after it. -/
def readZone (text : Bytes) : Except Fault (Int × Bytes) :=
  match text with
  | 90 :: rest => .ok (0, rest)
  | 122 :: rest => .ok (0, rest)
  | _ => do
    let (sign, rest) ← readSign text
    let (hours, rest) ← readPair rest
    let rest ← readMark [58] rest
    let (minutes, rest) ← readPair rest
    -- An hour has no more minutes; whether there are too many hours is not asked yet.
    if 59 < minutes then .error .outOfRange
    else .ok (sign * (hours * 3600 + minutes * 60), rest)

/-- The seconds of a day. -/
def dayLength : Int := 86400

/-- The seconds from the start of 1970 to a timestamp. -/
def readBytes (text : Bytes) : Except Fault Int :=
  if text.length < 19 then .error .tooShort
  else do
    let (date, rest) ← readDate text
    let rest ← readMark [84, 116, 32] rest
    let (seconds, rest) ← readTime rest
    let (zone, rest) ← readZone rest
    if !rest.isEmpty then .error .trailing
    -- A distance of a whole day is too much, which is noticed last.
    else if zone ≤ -dayLength ∨ dayLength ≤ zone then .error .outOfRange
    else .ok (((date.days : Int) - epochDays) * dayLength + seconds - zone)

/-- The seconds from the start of 1970 to a timestamp. -/
def read (text : String) : Except Fault Int :=
  readBytes (Bytes.ofText text)

end SafeOps.Timestamp
