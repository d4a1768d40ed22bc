/-!
# `SafeOps.Text.Split`: the pieces of a text

`splitOn` cuts a text at every separator and `splitOnce` at the first one.

* `intercalate_splitOn`: the pieces joined with the separator are the text again.
-/

set_option autoImplicit false

namespace SafeOps.Text

/-- The pieces between the separators of a text; there is always at least one. -/
def splitOn (separator : Char) : List Char → List (List Char)
  | [] => [[]]
  | c :: cs =>
    if c = separator then [] :: splitOn separator cs
    else
      match splitOn separator cs with
      | piece :: pieces => (c :: piece) :: pieces
      | [] => [[c]]

/-- What stands before and after the first separator. -/
def splitOnce (separator : Char) : List Char → Option (List Char × List Char)
  | [] => none
  | c :: cs =>
    if c = separator then some ([], cs)
    else (splitOnce separator cs).map fun (before, after) => (c :: before, after)

theorem splitOn_ne_nil (separator : Char) (cs : List Char) : splitOn separator cs ≠ [] := by
  cases cs with
  | nil => simp [splitOn]
  | cons c cs =>
    unfold splitOn
    split
    · simp
    · split <;> simp

theorem intercalate_splitOn (separator : Char) (cs : List Char) :
    List.intercalate [separator] (splitOn separator cs) = cs := by
  induction cs with
  | nil => rfl
  | cons c cs ih =>
    unfold splitOn
    cases hs : splitOn separator cs with
    | nil => exact absurd hs (splitOn_ne_nil separator cs)
    | cons piece pieces =>
      rw [hs] at ih
      split
      -- At a separator the first piece is empty, and joining puts the separator back.
      · rename_i hc
        rw [← ih, hc]
        rfl
      · rw [← ih]
        cases pieces <;> rfl

end SafeOps.Text
