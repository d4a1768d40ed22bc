import SafeOps.Text.Bidi
import SafeOps.Text.Joining
import SafeOps.Text.Normal
import SafeOps.Url.Mapping
import SafeOps.Url.Punycode

/-!
# `SafeOps.Url.Domain`: domain names in URLs

A domain name is brought to one spelling before it is looked up, and a label that is not
ASCII then is written in Punycode behind `xn--`. A label that comes in Punycode has to stand
for one that this would leave alone. No label starts with a mark, joiners stand where they
are needed only, and if a script from the right occurs, every label keeps to one direction.
Control characters, spaces and the characters that separate parts of a URL are not allowed.
-/

set_option autoImplicit false

namespace SafeOps.Url.Domain

/-- The ASCII characters no domain name has. -/
def isForbidden (c : Char) : Bool :=
  c.toNat ≤ 0x20 || c.toNat = 0x7F || "%#/:<>?@[\\]^|".toList.contains c

/-- The one spelling of a text; nothing if it has a character that is refused. -/
def spelling? (cs : List Char) : Option (List Char) :=
  (Mapping.images? cs).map Text.normalForm

/-- A label of a domain name. -/
structure Label where
  /-- The label as people read it. -/
  plain : List Char
  /-- The label in ASCII. -/
  ascii : List Char
  deriving DecidableEq, Repr

namespace Label

/-- What a label in Punycode starts with. -/
def mark : List Char := ['x', 'n', '-', '-']

/-- The longest label that is written in Punycode. -/
def maxPlain : Nat := 1000

/-- The longest Punycode that is read. -/
def maxEncoded : Nat := 2000

/-- Whether all characters of a label may stand where they do. -/
def isWellFormed (plain : List Char) : Bool :=
  (plain.head?.all fun c => !Text.isMark c) && Text.joinersFit [] plain

/-- The label that Punycode stands for. It has to be one that is written so. -/
def decode? (encoded : List Char) : Option Label :=
  if maxEncoded < encoded.length ∨ encoded.getLast? = some '-' then none
  else
    match Punycode.decode? encoded with
    | some plain =>
      if plain.all (·.toNat < 128) || spelling? plain != some plain || !isWellFormed plain then none
      else some ⟨plain, mark ++ encoded⟩
    | none => none

/-- Reads a label whose spelling is settled. -/
def read? (label : List Char) : Option Label :=
  if mark.isPrefixOf label then
    if label.all (·.toNat < 128) then decode? (label.drop mark.length) else none
  else if label.all (·.toNat < 128) then some ⟨label, label⟩
  else if label.length ≤ maxPlain ∧ isWellFormed label then
    some ⟨label, mark ++ Punycode.encode label⟩
  else none

end Label

/-- The ASCII form of a domain name. -/
def ascii? (name : List Char) : Option (List Char) := do
  let spelled ← spelling? name
  -- Another spelling can bring forbidden characters about, so they are looked for in it.
  if spelled.any isForbidden then none
  else
    let labels ← (Text.splitOn '.' spelled).mapM Label.read?
    if Text.isReadable (labels.map Label.plain) then
      some (List.intercalate ['.'] (labels.map Label.ascii))
    else none

end SafeOps.Url.Domain
