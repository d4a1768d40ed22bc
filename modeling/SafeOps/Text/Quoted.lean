import SafeOps.Text.Digits
import SafeOps.Text.Mark
import SafeOps.Text.Unassigned

/-!
# `SafeOps.Text.Quoted`: text as error messages show it

Messages name a character between single quotes and a text between double quotes. The
control characters with a short escape use it, the quote around it and a backslash are
escaped, every other character that cannot be seen by itself is written as `\u` with its
hexadecimal code point in braces, and the rest stand for themselves.

Controls, characters that only steer the layout, blanks other than the plain space, fillers,
marks that belong to the character before them, and codes without a character cannot be told
apart by looking at them (`isInvisible`).
-/

set_option autoImplicit false

namespace SafeOps.Text

/-- The runs of controls, blanks, fillers and spacing marks that only extend a character. -/
def hiddenRuns : List Nat :=
  [0, 32, 95, 34, 12, 1, 1362, 6, 22, 1, 192, 1, 49, 1, 384, 2, 80, 1, 219, 1, 24, 1, 358, 1,
   24, 1, 102, 1, 24, 1, 232, 1, 1, 1, 4, 2, 1, 2, 9, 2, 103, 1, 24, 1, 119, 1, 15, 1, 895, 2,
   1311, 1, 148, 1, 30, 1, 217, 1, 806, 1, 5, 1, 1, 1, 5, 2, 101, 1, 71, 2, 1036, 16, 24, 8, 47,
   6, 1, 10, 3984, 1, 45, 2, 308, 1, 30702, 1, 108, 1, 21822, 1, 158, 3, 88, 3, 4289, 1, 15, 1,
   242, 1, 116, 1, 264, 1, 14, 1, 9, 1, 96, 1, 9, 1, 2, 1, 1, 3, 5, 1, 224, 1, 12, 1, 241, 1,
   262, 1, 633, 1, 12, 1, 1539, 1, 5358, 16, 15280, 2, 19630, 4, 5313, 2, 6, 14, 798342, 1, 30,
   96]

/-- Whether a character cannot be seen by itself. -/
def isInvisible (c : Char) : Bool :=
  holds hiddenRuns c.toNat || isNonspacing c || isUnassigned c

/-- A character between quotes. -/
def escapeIn (quote c : Char) : String :=
  if c = '\x00' then "\\0"
  else if c = '\t' then "\\t"
  else if c = '\n' then "\\n"
  else if c = '\r' then "\\r"
  else if c = quote ∨ c = '\\' then String.ofList ['\\', c]
  -- Printable ASCII needs no look at the tables.
  else if 0x20 ≤ c.toNat ∧ c.toNat < 0x7F then c.toString
  else if isInvisible c then "\\u\x7b" ++ hexDigits c.toNat ++ "\x7d"
  else c.toString

/-- The character inside single quotes. -/
def quoteChar (c : Char) : String :=
  "'" ++ escapeIn '\'' c ++ "'"

/-- The text inside double quotes. -/
def quoteText (s : String) : String :=
  "\"" ++ String.join (s.toList.map (escapeIn '"')) ++ "\""

end SafeOps.Text
