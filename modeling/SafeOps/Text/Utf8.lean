import SafeOps.Bytes

/-!
# `SafeOps.Text.Utf8`: byte strings as text

`step` looks at the start of a byte string and either finds the character encoded
there or says how many bytes form the longest start of one that cannot be completed.
`decodeLossy` replaces each such run by U+FFFD, and `decode?` refuses them.
-/

set_option autoImplicit false

namespace SafeOps.Text.Utf8

/-- What stands at the start of a byte string. -/
inductive Step where
  /-- A character, encoded in that many bytes. -/
  | char (c : Char) (size : Nat)
  /-- That many bytes which are no part of a character. -/
  | broken (size : Nat)

/-- The number of bytes looked at. -/
def Step.size : Step → Nat
  | .char _ n => n
  | .broken n => n

/-- Whether a byte continues a character. -/
def isTail (b : UInt8) : Bool :=
  0x80 ≤ b && b ≤ 0xBF

/-- The payload of a continuing byte. -/
def tailBits (b : UInt8) : Nat :=
  b.toNat % 64

/-- The second bytes allowed after a first byte: they exclude overlong forms,
surrogates and numbers beyond the last code point. -/
def secondRange (first : UInt8) : UInt8 × UInt8 :=
  if first = 0xE0 then (0xA0, 0xBF)
  else if first = 0xED then (0x80, 0x9F)
  else if first = 0xF0 then (0x90, 0xBF)
  else if first = 0xF4 then (0x80, 0x8F)
  else (0x80, 0xBF)

/-- Whether `second` may follow `first`. -/
def secondFits (first second : UInt8) : Bool :=
  (secondRange first).1 ≤ second && second ≤ (secondRange first).2

/-- A character of three bytes. -/
def stepThree (first : UInt8) : Bytes → Step
  | b :: c :: _ =>
    if !secondFits first b then .broken 1
    else if !isTail c then .broken 2
    else .char (Char.ofNat (first.toNat % 16 * 4096 + tailBits b * 64 + tailBits c)) 3
  | [b] => if secondFits first b then .broken 2 else .broken 1
  | [] => .broken 1

/-- A character of four bytes. -/
def stepFour (first : UInt8) : Bytes → Step
  | b :: c :: d :: _ =>
    if !secondFits first b then .broken 1
    else if !isTail c then .broken 2
    else if !isTail d then .broken 3
    else
      .char (Char.ofNat (first.toNat % 8 * 262144 + tailBits b * 4096 + tailBits c * 64
        + tailBits d)) 4
  | [b, c] => if !secondFits first b then .broken 1 else if isTail c then .broken 3 else .broken 2
  | [b] => if secondFits first b then .broken 2 else .broken 1
  | [] => .broken 1

/-- What stands at the start of a byte string that begins with `first`. -/
def step (first : UInt8) (rest : Bytes) : Step :=
  if first < 0x80 then .char (Char.ofNat first.toNat) 1
  else if 0xC2 ≤ first && first ≤ 0xDF then
    match rest with
    | b :: _ =>
      if isTail b then .char (Char.ofNat (first.toNat % 32 * 64 + tailBits b)) 2 else .broken 1
    | [] => .broken 1
  else if 0xE0 ≤ first && first ≤ 0xEF then stepThree first rest
  else if 0xF0 ≤ first && first ≤ 0xF4 then stepFour first rest
  else .broken 1

/-- The steps that lead through a byte string. -/
def steps : Bytes → List Step
  | [] => []
  | b :: rest =>
    let s := step b rest
    s :: steps (rest.drop (s.size - 1))
termination_by bs => bs.length
decreasing_by
  simp only [List.length_drop, List.length_cons]
  omega

/-- The text of a byte string, U+FFFD standing for what is no text. -/
def decodeLossy (bs : Bytes) : String :=
  String.ofList ((steps bs).map fun
    | .char c _ => c
    | .broken _ => '\uFFFD')

/-- The characters of a byte string that is text throughout. -/
def decode? (bs : Bytes) : Option (List Char) :=
  (steps bs).mapM fun
    | .char c _ => some c
    | .broken _ => none

end SafeOps.Text.Utf8
