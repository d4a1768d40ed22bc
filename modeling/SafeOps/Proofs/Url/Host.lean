import SafeOps.Proofs.Text.Ascii
import SafeOps.Proofs.Url.Domain
import SafeOps.Proofs.Url.IpAddress
import SafeOps.Url.Host

/-!
# `SafeOps.Proofs.Url.Host`: what is read as a host

A host that was read is in its one form (`Canonical`): an address with all its bits, or a name that
neither has a character that separates parts of a URL nor ends in a number
(`canonical_of_read`). So no name can be taken for an address: `ofText?_eq_none_of_name`.

A host in ASCII without escapes and without Punycode is mapped to lowercase, and what ends in a
number is read as the address it is a text of (`read_of_number`).
-/

set_option autoImplicit false

namespace SafeOps.Url.Host

/-! ### Hosts that were read -/

/-- A host in its one form. -/
inductive Canonical : Host → Prop
  | domain {name : List Char} (hallowed : ∀ c ∈ name, Domain.isForbidden c = false)
      (hnumber : Ipv4.endsInNumber name = false) : Canonical (.domain (String.ofList name))
  | ipv4 (a : Ipv4) : Canonical (.ipv4 a)
  | ipv6 {a : Ipv6} (h : a.WellFormed) : Canonical (.ipv6 a)

theorem canonical_of_bracketed {cs : List Char} {host : Host} (h : bracketed cs = .ok host) :
    host.Canonical := by
  unfold bracketed at h
  split at h
  · split at h
    · next a ha =>
      cases h
      exact .ipv6 (Ipv6.wellFormed_of_ofText? ha)
    · cases h
  · cases h

/-- What is read is in its one form. -/
theorem canonical_of_read {cs : List Char} {host : Host} (h : read cs = .ok host) :
    host.Canonical := by
  unfold read at h
  split at h
  · exact canonical_of_bracketed h
  · split at h
    · cases h
    · next name hname =>
      obtain ⟨decoded, -, hascii⟩ := Option.bind_eq_some_iff.mp hname
      split at h
      · cases h
      · split at h
        · split at h
          · cases h
            exact .ipv4 _
          · cases h
        · next hnumber =>
          cases h
          exact .domain (fun c hc => Domain.isForbidden_of_mem_ascii? hascii hc)
            (Bool.eq_false_iff.mpr hnumber)

/-- No name is the text of an address: it has no colons, and does not end in a number. -/
theorem ofText?_eq_none_of_name {name : List Char}
    (hallowed : ∀ c ∈ name, Domain.isForbidden c = false)
    (hnumber : Ipv4.endsInNumber name = false) : IpAddress.ofText? name = none := by
  have hfour : Ipv4.ofText? name = none := by
    refine Option.eq_none_iff_forall_ne_some.mpr fun a ha => ?_
    rw [Ipv4.endsInNumber_of_ofText? ha] at hnumber
    cases hnumber
  have hcolon : ':' ∉ name := fun hmem => absurd (hallowed ':' hmem) (by decide)
  rw [IpAddress.ofText?, hfour, Ipv6.ofText?_of_colon_not_mem hcolon]
  rfl

/-! ### Hosts in ASCII -/

theorem unescape_of_not_mem {bs : Bytes} (h : 37 ∉ bs) : unescape bs = bs := by
  induction bs with
  | nil => rfl
  | cons b bs ih =>
    rw [List.mem_cons, not_or] at h
    rw [unescape, ih h.2]
    rintro x y rest rfl
    exact absurd rfl h.1

/-- A host in ASCII without escapes is mapped to lowercase, and if it ends in a number then it is
the address of which that is a text. -/
theorem read_of_number {cs : List Char} {a : Ipv4} (h : ∀ c ∈ cs, c.toNat < 128)
    (hallowed : ∀ c ∈ cs, Domain.isForbidden c = false ∧ Domain.isForbidden c.toLower = false)
    (hmark : ∀ label ∈ Text.splitOn '.' (cs.map Char.toLower), ¬ Domain.Label.mark <+: label)
    (hnumber : Ipv4.endsInNumber (cs.map Char.toLower) = true)
    (haddress : Ipv4.ofHost? (cs.map Char.toLower) = some a) : read cs = .ok (.ipv4 a) := by
  have hbracket : ¬ cs.head? = some '[' := by
    intro hhead
    exact absurd (hallowed '[' (List.mem_of_mem_head? hhead)).1 (by decide)
  have hbytes : cs.flatMap String.utf8EncodeChar = cs.map asciiByte := by
    have htext := Bytes.ofText_ofList_of_ascii h
    rwa [Bytes.ofText, String.toList_ofList] at htext
  have hescape : (37 : UInt8) ∉ cs.map asciiByte := by
    intro hmem
    obtain ⟨c, hc, hbyte⟩ := List.mem_map.mp hmem
    have hpercent : c = '%' := by
      have hcode : c.toNat = 37 := by
        rw [← toNat_asciiByte (h c hc), hbyte]
        rfl
      rw [← Char.ofNat_toNat c, hcode]
    exact absurd (hallowed c hc).1 (by rw [hpercent]; decide)
  have hname : (Text.Utf8.decode? (unescape (cs.flatMap String.utf8EncodeChar))).bind Domain.ascii?
      = some (cs.map Char.toLower) := by
    rw [hbytes, unescape_of_not_mem hescape, Text.Utf8.decode?_map_asciiByte h, Option.bind_some]
    exact Domain.ascii?_of_plain h (fun c hc => (hallowed c hc).2) hmark
  have hne : (cs.map Char.toLower).isEmpty = false := by
    rw [List.isEmpty_eq_false_iff]
    intro hnil
    rw [hnil] at hnumber
    cases hnumber
  rw [read, if_neg hbracket, hname]
  simp only [hne, Bool.false_eq_true, if_false, hnumber, if_true, haddress]

end SafeOps.Url.Host
