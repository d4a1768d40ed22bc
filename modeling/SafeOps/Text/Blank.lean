/-!
# `SafeOps.Text.Blank`: white space around a text

A blank is a character of the Unicode property `White_Space`. Zero-width
characters, the byte order mark and the C0 separators 0x1C to 0x1F lack the
property, so they are text and stay. `trim` removes blanks at both ends and
nothing in between.
-/

set_option autoImplicit false

namespace SafeOps.Text

/-- Whether a character has the property `White_Space`. -/
def isBlank (c : Char) : Bool :=
  let n := c.toNat
  (0x09 ≤ n && n ≤ 0x0D) || n == 0x20 || n == 0x85 || n == 0xA0 || n == 0x1680
    || (0x2000 ≤ n && n ≤ 0x200A) || n == 0x2028 || n == 0x2029 || n == 0x202F
    || n == 0x205F || n == 0x3000

/-- The characters with blanks at the end removed. -/
def dropBlanksRight (cs : List Char) : List Char :=
  (cs.reverse.dropWhile isBlank).reverse

/-- The characters with blanks at both ends removed. -/
def trimChars (cs : List Char) : List Char :=
  dropBlanksRight (cs.dropWhile isBlank)

/-- The text with blanks at both ends removed. -/
def trim (s : String) : String :=
  String.ofList (trimChars s.toList)

end SafeOps.Text
