import SafeOps.Text.CombiningClass
import SafeOps.Text.Mark

/-!
# `SafeOps.Text.Joining`: joiners between letters

In some scripts letters are joined to their neighbours, and a joiner or a non-joiner between
two of them changes how they look. It belongs there only behind a virama, which joins
consonants, and a non-joiner also where two letters would be joined without it.

Only characters that may stand in a name are told apart; the tables are silent about others.
-/

set_option autoImplicit false

namespace SafeOps.Text

/-- The runs of letters that are joined to the letter after them. -/
def joinsNextRuns : List Nat :=
  [1568, 1, 5, 1, 1, 1, 1, 5, 4, 13, 1, 7, 1, 2, 35, 2, 9, 15, 18, 38, 1, 2, 9, 1, 1, 1, 1, 2,
   40, 3, 2, 1, 18, 3, 5, 4, 1, 9, 1, 1, 1, 1, 1, 2, 31, 11, 3, 15, 2, 4, 1, 1, 2, 3, 2, 6, 74,
   33, 86, 5, 2, 1, 1, 10, 1, 1, 10, 1, 1, 4, 2, 1, 29, 1, 2, 5, 1, 27, 5, 2, 2, 6, 1, 15, 3902,
   1, 24, 89, 14, 36, 36757, 51, 25165, 5, 8, 1, 5, 10, 1, 3, 10, 4, 145, 1, 1, 1, 3, 3, 1, 2,
   1, 1, 2, 1, 28, 2, 337, 34, 1, 1, 415, 2, 1, 2, 104, 3, 1, 17, 12, 3, 28, 4, 2, 12, 46, 1, 1,
   2, 4, 1, 2, 2, 1, 2, 1, 1, 2, 1, 5, 2, 55638, 34]

/-- The runs of letters that are joined to the letter before them. -/
def joinsPreviousRuns : List Nat :=
  [1568, 1, 1, 30, 1, 10, 35, 6, 5, 91, 1, 1, 24, 2, 10, 3, 2, 1, 16, 112, 74, 33, 85, 25, 7, 1,
   1, 4, 1, 28, 3, 1, 2, 36, 1, 27, 3902, 1, 24, 89, 14, 36, 36757, 50, 25166, 6, 1, 1, 1, 2, 3,
   9, 1, 10, 2, 12, 144, 18, 23, 6, 338, 35, 414, 3, 1, 2, 104, 21, 12, 4, 27, 18, 46, 1, 1, 5,
   1, 8, 1, 4, 4, 2, 55639, 34]

/-- Whether joining passes over a character. -/
def isPassedOver (c : Char) : Bool :=
  isNonspacing c || c.toNat = 0x1E94B

/-- Whether a letter stands next that is joined to the letter after it. -/
def joinsNext (cs : List Char) : Bool :=
  match cs.dropWhile isPassedOver with
  | c :: _ => holds joinsNextRuns c.toNat
  | [] => false

/-- Whether a letter stands next that is joined to the letter before it. -/
def joinsPrevious (cs : List Char) : Bool :=
  match cs.dropWhile isPassedOver with
  | c :: _ => holds joinsPreviousRuns c.toNat
  | [] => false

/-- The combining class of viramas. -/
def viramaClass : Nat := 9

/-- Whether every joiner has its place. `before` holds what stands before, last one first. -/
def joinersFit (before : List Char) : List Char → Bool
  | [] => true
  | c :: rest =>
    let afterVirama := before.head?.any fun b => combiningClass b.toNat = viramaClass
    let fits :=
      if c = '\u200C' then afterVirama || (joinsNext before && joinsPrevious rest)
      else if c = '\u200D' then afterVirama
      else true
    fits && joinersFit (c :: before) rest

end SafeOps.Text
