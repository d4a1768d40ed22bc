import SafeOps.Binary64.Shortest
import SafeOps.Text.Digits

/-!
# `SafeOps.Json.Number`: numbers with a fraction in JSON

A number is written with the fewest digits that stand for it: with a point in its place if it
has at most sixteen digits before it and at most five zeros behind it, and with an exponent
otherwise.

Of the digits of a written number only those count that fit 64 bits together, whatever
follows them.
-/

set_option autoImplicit false

namespace SafeOps.Json.Number

/-! ## Writing -/

/-- Text of `n` zeros. -/
def zeros (n : Nat) : List Char :=
  List.replicate n '0'

/-- The text of digits times a power of ten. -/
def decimalText (d : Binary64.Decimal) : List Char :=
  let digits := Nat.toDigits 10 d.digits
  -- Where the point stands, counted from the first digit.
  let point : Int := digits.length + d.exponent
  if 0 ≤ d.exponent ∧ point ≤ 16 then digits ++ zeros d.exponent.toNat ++ ['.', '0']
  else if 0 < point ∧ point ≤ 16 then digits.take point.toNat ++ '.' :: digits.drop point.toNat
  else if -5 < point ∧ point ≤ 0 then '0' :: '.' :: zeros (-point).toNat ++ digits
  else
    let fraction := if digits.length = 1 then [] else '.' :: digits.drop 1
    let exponent := point - 1
    -- The exponent has a sign in either direction, and no zeros in front.
    digits.take 1 ++ fraction ++ ['e', if exponent < 0 then '-' else '+']
      ++ Nat.toDigits 10 exponent.natAbs

/-- The text of a number. -/
def text (x : Binary64) : String :=
  let magnitude :=
    if x.significand = 0 then ['0', '.', '0']
    else decimalText (Binary64.shortest ⟨x.significand, x.exponent⟩)
  String.ofList (if x.negative then '-' :: magnitude else magnitude)

/-! ## Reading -/

/-- Puts digits behind a number as long as it fits 64 bits; the digits left over do not
count. -/
def takeDigits : Nat → List Char → Nat × List Char
  | n, [] => (n, [])
  | n, c :: cs =>
    let longer := n * 10 + (c.toNat - 48)
    if longer < limit 64 then takeDigits longer cs else (n, c :: cs)

/-- The number with the given digits before and behind the point, times a power of ten;
nothing if it is too large. -/
def ofDigits? (negative : Bool) (whole fraction : List Char) (exponent : Int) :
    Option Binary64 :=
  let (n, dropped) := takeDigits 0 whole
  let (integer, unused) := takeDigits n fraction
  Binary64.ofDecimal? negative integer
    (exponent + dropped.length - (fraction.length - unused.length : Nat))

end SafeOps.Json.Number
