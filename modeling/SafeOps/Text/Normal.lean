import SafeOps.Text.CombiningClass
import SafeOps.Text.Decomposition

/-!
# `SafeOps.Text.Normal`: one spelling for characters with marks

Texts that look the same can be made of different characters. In normal form C every
character is taken apart, the marks behind a letter are put into the order of their
combining classes, and then as much as possible is put together again.

* `place_of_starter`: nothing changes places with a character that is no mark.
-/

set_option autoImplicit false

namespace SafeOps.Text

/-- A code with its combining class. -/
structure Classed where
  code : Nat
  combining : Nat
  deriving DecidableEq, Repr

/-- A code with its combining class. -/
def Classed.ofCode (n : Nat) : Classed :=
  ⟨n, combiningClass n⟩

/-! ## Order of marks -/

/-- Puts a code in front of codes whose marks are in order, behind marks of a lower class. -/
def place (c : Classed) : List Classed → List Classed
  | [] => [c]
  | d :: ds => if 0 < d.combining ∧ d.combining < c.combining then d :: place c ds else c :: d :: ds

/-- Puts the marks behind every letter into order; those of one class stay as they are. -/
def orderMarks : List Classed → List Classed
  | [] => []
  | c :: cs => place c (orderMarks cs)

/-- A character that is no mark stays in front of what follows. -/
theorem place_of_starter {c : Classed} (h : c.combining = 0) (cs : List Classed) :
    place c cs = c :: cs := by
  cases cs with
  | nil => rfl
  | cons d ds => simp [place, h]

/-! ## Putting together -/

/-- Puts a letter together with the marks behind it. `kept` holds those that stay, last one
first. A mark is out of reach behind another one of its own class or of a higher one. -/
def composeFrom (letter : Nat) (kept : List Classed) : List Classed → List Nat
  | [] => letter :: kept.reverse.map Classed.code
  | c :: cs =>
    let inReach :=
      match kept with
      | [] => true
      | last :: _ => last.combining < c.combining
    match if inReach then composite? letter c.code else none with
    | some whole => composeFrom whole kept cs
    | none =>
      if c.combining = 0 then letter :: (kept.reverse.map Classed.code ++ composeFrom c.code [] cs)
      else composeFrom letter (c :: kept) cs

/-- Puts together what can be put together; marks without a letter stay. -/
def compose : List Classed → List Nat
  | [] => []
  | c :: cs => if c.combining = 0 then composeFrom c.code [] cs else c.code :: compose cs

/-- The normal form C of a list of codes. -/
def normalCodes (codes : List Nat) : List Nat :=
  compose (orderMarks ((codes.flatMap (decompose maxMarks)).map Classed.ofCode))

/-- The normal form C of a text. -/
def normalForm (cs : List Char) : List Char :=
  -- ASCII characters are the same as no others.
  if cs.all (·.toNat < 128) then cs else (normalCodes (cs.map Char.toNat)).map Char.ofNat

end SafeOps.Text
