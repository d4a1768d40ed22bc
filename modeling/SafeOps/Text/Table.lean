import SafeOps.Text.Digits
import SafeOps.Text.Split

/-!
# `SafeOps.Text.Table`: tables that give a character several others

A table is a list of lines, a line consists of blocks with commas in between, and a block is
the code of a character and what this character and those after it stand for, with spaces in
between. What stands for a character are codes with a plus sign in between. All codes are
hexadecimal. So `C0 41+300 41+301` says what the codes C0 and C1 stand for.
-/

set_option autoImplicit false

namespace SafeOps.Text

/-- A hexadecimal code; what is none counts as zero. -/
def readCode (cs : List Char) : Nat :=
  (digits? 16 cs).getD 0

/-- What codes from `first` on stand for. -/
def readEntries : Nat → List (List Char) → List (Nat × List Nat)
  | _, [] => []
  | first, entry :: rest => (first, (splitOn '+' entry).map readCode) :: readEntries (first + 1) rest

/-- The entries of a block. -/
def readBlock (block : List Char) : List (Nat × List Nat) :=
  match splitOn ' ' block with
  | first :: entries => readEntries (readCode first) entries
  | [] => []

/-- The entries of a table. -/
def readTable (lines : List String) : List (Nat × List Nat) :=
  lines.flatMap fun line => (splitOn ',' line.toList).flatMap readBlock

end SafeOps.Text
