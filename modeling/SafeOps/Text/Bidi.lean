import SafeOps.Text.Mark

/-!
# `SafeOps.Text.Bidi`: texts in both directions

Some scripts run from right to left, and numbers in them from left to right. A name with
letters of such a script can be read in one way only if each of its labels keeps to the
characters of its direction, which the first character sets.

Only characters that may stand in a name are told apart; the tables are silent about others.
-/

set_option autoImplicit false

namespace SafeOps.Text

/-- How a character behaves in a text with two directions. -/
inductive BidiClass where
  /-- A letter written from left to right. -/
  | left
  /-- A letter written from right to left. -/
  | right
  /-- A digit that numbers in all scripts may have. -/
  | europeanNumber
  /-- A digit of Arabic numbers. -/
  | arabicNumber
  /-- A sign without a direction. -/
  | neutral
  /-- A mark, which goes with the character before it. -/
  | mark
  deriving DecidableEq, Repr

namespace BidiClass

/-- The runs of letters written from right to left, with the marks between them. -/
def rightRuns : List Nat :=
  [1470, 55, 19, 1, 2, 1, 1, 1, 13, 48, 34, 105, 15, 2, 7, 2, 10, 252, 4, 208, 62184, 17, 688,
   1, 2444, 284, 4, 534, 10, 484, 38, 6, 31, 33, 240, 72, 56, 247, 55305, 1342]

/-- The runs of digits that numbers in all scripts may have. -/
def europeanRuns : List Nat :=
  [48, 10, 1718, 10, 64487, 27]

/-- The runs of digits of Arabic numbers. -/
def arabicRuns : List Nat :=
  [1632, 10, 1, 2, 67267, 26, 278, 31]

/-- The runs of signs without a direction. -/
def neutralRuns : List Nat :=
  [33, 13, 13, 38, 26, 93, 31, 1, 449, 2, 7, 14, 2, 28, 1, 17, 117, 1, 128, 1, 403, 6, 118, 2,
   1, 2, 1, 1, 1, 2, 90, 1, 115, 1, 10, 1, 268, 4, 504, 2, 7, 1, 245, 1, 257, 8, 125, 7, 448, 1,
   250, 4, 1106, 10, 102, 1, 666, 2, 318, 1, 20, 27, 309, 6, 152, 34, 1548, 322, 60, 428, 69,
   26, 1, 790, 1, 339, 256, 768, 229, 6, 14, 7, 256, 517, 3, 25, 15, 1, 6, 1, 5, 3, 96, 1, 90,
   1, 196, 38, 7130, 64, 22160, 55, 326, 3, 99, 13, 128, 34, 102, 1, 159, 4, 12, 2, 58, 4, 754,
   2, 20567, 644, 698, 1, 62, 77, 3, 17, 1918, 1, 537, 7, 558, 1, 353, 9, 377, 20, 1530, 13,
   2408, 29, 20464, 1, 23581, 753, 760, 93, 186, 87, 4008, 1, 3056, 576, 61, 3, 61, 1, 178,
   2459]

/-- Marks that behave like letters. -/
def letterMarks : List Nat :=
  [0xCBF, 0xCC6, 0x11A07, 0x11A08, 0x11C3F]

/-- The class of a character. -/
def ofChar (c : Char) : BidiClass :=
  let n := c.toNat
  if isNonspacing c && !letterMarks.contains n then .mark
  else if holds rightRuns n then .right
  else if holds europeanRuns n then .europeanNumber
  else if holds arabicRuns n then .arabicNumber
  else if holds neutralRuns n then .neutral
  else .left

/-- Whether a character makes a text one with two directions. -/
def turns (c : BidiClass) : Bool :=
  c = .right || c = .arabicNumber

/-- Whether a label that starts with a letter from the left may have a character. -/
def fitsLeft (c : BidiClass) : Bool :=
  c ≠ .right && c ≠ .arabicNumber

/-- Whether a label that starts with a letter from the right may have a character. -/
def fitsRight (c : BidiClass) : Bool :=
  c ≠ .left

/-- Whether a label may end with a character, marks aside. -/
def mayEnd (c : BidiClass) : Bool :=
  c ≠ .neutral

/-- Whether the characters of a label keep to one direction. -/
def isOrderly : List BidiClass → Bool
  | [] => true
  | first :: rest =>
    -- Marks at the end go with the character before them.
    let body := (rest.reverse.dropWhile (· = .mark)).reverse
    body.getLast?.all mayEnd &&
      match first with
      | .left => body.all fitsLeft
      | .right =>
        -- Numbers of both kinds next to each other cannot be told apart.
        body.all fitsRight && !(body.contains .europeanNumber && body.contains .arabicNumber)
      | _ => false

end BidiClass

/-- Whether all labels of a name can be read in one way only. -/
def isReadable (labels : List (List Char)) : Bool :=
  let classes := labels.map fun label => label.map BidiClass.ofChar
  !(classes.any fun label => label.any BidiClass.turns) || classes.all BidiClass.isOrderly

end SafeOps.Text
