import SafeOps.Width

/-!
# `SafeOps.Url.Punycode`: labels of domain names in ASCII

A label with characters beyond ASCII is written as its ASCII characters, a hyphen, and
numbers of variable length, which say where the other characters go. The thresholds of
the digits adapt to the numbers written before.

`encode` writes a label, and `decode?` reads one.
-/

set_option autoImplicit false

namespace SafeOps.Url.Punycode

/-- The character of a digit below 36: letters, then decimal digits. -/
def digitChar (d : Nat) : Char :=
  if d < 26 then Char.ofNat (97 + d) else Char.ofNat (22 + d)

/-- The digit of a lowercase letter or a decimal digit. -/
def digit? (c : Char) : Option Nat :=
  let n := c.toNat
  if 97 ≤ n ∧ n ≤ 122 then some (n - 97)
  else if 48 ≤ n ∧ n ≤ 57 then some (n - 22)
  else none

/-- The threshold of the digit at `place`, which counts in steps of 36. -/
def threshold (place bias : Nat) : Nat :=
  if place ≤ bias then 1 else if bias + 26 ≤ place then 26 else place - bias

theorem threshold_pos (place bias : Nat) : 1 ≤ threshold place bias := by
  unfold threshold
  split
  · omega
  · split <;> omega

/-- How often a number has to be divided by 35 to get small, and what is left. -/
def shrink (delta steps : Nat) : Nat × Nat :=
  if 455 < delta then shrink (delta / 35) (steps + 1) else (delta, steps)
termination_by delta
decreasing_by omega

/-- The bias after a number was written; `count` is how many characters there are now. -/
def adapt (delta count : Nat) (first : Bool) : Nat :=
  let halved := if first then delta / 700 else delta / 2
  let (small, steps) := shrink (halved + halved / count) 0
  36 * steps + 36 * small / (small + 38)

/-! ## Writing -/

/-- The digits of a number. -/
def digits (bias place q : Nat) : List Char :=
  let t := threshold place bias
  if q < t then [digitChar q]
  else digitChar (t + (q - t) % (36 - t)) :: digits bias (place + 36) ((q - t) / (36 - t))
termination_by q
decreasing_by
  have hpos := threshold_pos place bias
  have hdiv := Nat.div_le_self (q - threshold place bias) (36 - threshold place bias)
  omega

/-- Where writing stands. -/
structure Writer where
  out : List Char
  delta : Nat
  bias : Nat
  /-- How many characters are written. -/
  written : Nat

/-- Looks at one character of the label while those with code `code` are written. -/
def Writer.visit (asciiCount code : Nat) (w : Writer) (c : Char) : Writer :=
  if c.toNat < code then { w with delta := w.delta + 1 }
  else if c.toNat = code then
    { out := w.out ++ digits w.bias 36 w.delta
      delta := 0
      bias := adapt w.delta (w.written + 1) (w.written = asciiCount)
      written := w.written + 1 }
  else w

/-- Writes the characters with the given codes; `next` is the first code not done yet. -/
def writeCodes (label : List Char) (asciiCount : Nat) : List Nat → Nat → Writer → Writer
  | [], _, w => w
  | code :: rest, next, w =>
    let started := { w with delta := w.delta + (code - next) * (w.written + 1) }
    let visited := label.foldl (Writer.visit asciiCount code) started
    writeCodes label asciiCount rest (code + 1) { visited with delta := visited.delta + 1 }

/-- Puts a number into an ascending list, once. -/
def insertCode (n : Nat) : List Nat → List Nat
  | [] => [n]
  | m :: ms => if n < m then n :: m :: ms else if n = m then m :: ms else m :: insertCode n ms

/-- Writes a label. -/
def encode (label : List Char) : List Char :=
  let ascii := label.filter (·.toNat < 128)
  let codes := (label.filter (128 ≤ ·.toNat)).foldr (fun c ns => insertCode c.toNat ns) []
  let start : Writer := ⟨[], 0, 72, ascii.length⟩
  ascii ++ (if ascii.isEmpty then [] else ['-'])
    ++ (writeCodes label ascii.length codes 128 start).out

/-! ## Reading -/

/-- A number, added to `i`, with the text after it. Numbers have 32 bits. -/
def readNumber? (bias : Nat) : Nat → Nat → Nat → List Char → Option (Nat × List Char)
  | _, _, _, [] => none
  | place, weight, i, c :: rest =>
    match digit? c with
    | none => none
    | some d =>
      let t := threshold place bias
      if limit 32 ≤ i + d * weight then none
      else if d < t then some (i + d * weight, rest)
      -- Another digit follows, and its weight has 32 bits too, even if the digit is zero.
      else if limit 32 ≤ weight * (36 - t) then none
      else readNumber? bias (place + 36) (weight * (36 - t)) (i + d * weight) rest

theorem length_lt_of_readNumber? {bias place weight i j : Nat} {cs rest : List Char}
    (h : readNumber? bias place weight i cs = some (j, rest)) : rest.length < cs.length := by
  induction cs generalizing place weight i with
  | nil => simp [readNumber?] at h
  | cons c cs ih =>
    unfold readNumber? at h
    split at h
    · cases h
    · dsimp only at h
      split at h
      · cases h
      · split at h
        · simp only [Option.some.injEq, Prod.mk.injEq] at h
          rw [← h.2, List.length_cons]
          omega
        · split at h
          · cases h
          · have := ih h
            rw [List.length_cons]
            omega

/-- Puts characters into `out` until the text is used up. -/
def insertAll? (bias code i : Nat) (out : List Char) (cs : List Char) : Option (List Char) :=
  if cs.isEmpty then some out
  else
    match h : readNumber? bias 36 1 i cs with
    | none => none
    | some (j, rest) =>
      -- The number counts places, going round the label once for each code that is skipped.
      let count := out.length + 1
      let code' := code + j / count
      if code'.isValidChar then
        have := length_lt_of_readNumber? h
        insertAll? (adapt (j - i) count (i = 0)) code' (j % count + 1)
          (out.insertIdx (j % count) (Char.ofNat code')) rest
      else none
termination_by cs.length

/-- What stands before and after the last hyphen. A text without a hyphen has nothing before
it, and neither has one that starts with its only hyphen, which then is no separator. -/
def splitHyphen (cs : List Char) : List Char × List Char :=
  let tail := (cs.reverse.takeWhile (· ≠ '-')).reverse
  match cs.take (cs.length - tail.length - 1) with
  | [] => ([], cs)
  | ascii => (ascii, tail)

/-- Reads a label. -/
def decode? (cs : List Char) : Option (List Char) :=
  let (ascii, tail) := splitHyphen cs
  insertAll? 72 128 0 ascii tail

end SafeOps.Url.Punycode
