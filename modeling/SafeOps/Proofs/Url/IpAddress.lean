import SafeOps.Proofs.Bytes
import SafeOps.Proofs.Failable
import SafeOps.Proofs.Quantity
import SafeOps.Proofs.Text.Split
import SafeOps.Url.IpAddress

/-!
# `SafeOps.Proofs.Url.IpAddress`: addresses are read back from their texts

The text of an address is read as the address again: `Ipv4.ofText?_text`, `Ipv6.ofText?_text`. The
two kinds are told apart by colons (`IpAddress.ofText?_text_v4`, `IpAddress.ofText?_text_v6`).
Without a colon a text is no IPv6 address, and four bytes end in a number
(`Ipv4.endsInNumber_of_ofText?`).

The text of an IPv6 address leaves out its longest run of zeros. `longestRun_eq_append` says what
was found is such a run, so the groups are those before it, as many zeros, and those after it.
Reading looks for the first double colon. The groups that were written before it bring none about
(`splitGap_join`), so it is that of the text.
-/

set_option autoImplicit false

namespace SafeOps

/-! ### Four bytes -/

namespace Ipv4

theorem byte?_toDigits {n : Nat} (h : n < 256) : Ipv6.byte? (Nat.toDigits 10 n) = some n := by
  have all : ∀ k ∈ List.range 256, Ipv6.byte? (Nat.toDigits 10 k) = some k := by decide +kernel
  exact all n (List.mem_range.mpr h)

theorem toList_text (a : Ipv4) : a.text.toList
    = List.intercalate ['.'] (a.toBytes.map fun b => Nat.toDigits 10 b.toNat) := by
  rw [text, String.toList_intercalate, List.map_map]
  have heach : (String.toList ∘ fun b : UInt8 => toString b.toNat)
      = fun b => Nat.toDigits 10 b.toNat := by
    funext b
    exact String.toList_ofList
  rw [heach]
  rfl

/-- A byte is written in decimal digits. -/
theorem isDigit_of_byte? {cs : List Char} {n : Nat} (h : Ipv6.byte? cs = some n) :
    cs ≠ [] ∧ (∀ c ∈ cs, c.isDigit = true) ∧ n < 256 := by
  unfold Ipv6.byte? at h
  split at h
  · cases h
  · cases h
  · next hne _ =>
    split at h
    · cases h
    · obtain ⟨hdigits, hle⟩ := Option.filter_eq_some_iff.mp h
      refine ⟨hne, fun c hc => ?_, by simpa [Nat.lt_succ_iff] using hle⟩
      obtain ⟨d, hd⟩ := Text.exists_digit?_of_mem hdigits hc
      exact Text.isDigit_of_digit? hd

/-- What is read as four bytes consists of bytes in decimal with points in between. -/
theorem mapM_of_ofText? {cs : List Char} {a : Ipv4} (h : ofText? cs = some a) :
    ∃ bytes, (Text.splitOn '.' cs).mapM Ipv6.byte? = some bytes ∧ bytes.length = 4 := by
  simp only [ofText?, Option.bind_eq_bind, Option.bind_eq_some_iff] at h
  obtain ⟨bytes, hbytes, hfour⟩ := h
  refine ⟨bytes, hbytes, ?_⟩
  split at hfour
  · rfl
  · cases hfour

/-- The last label of such a text is a number. -/
theorem endsInNumber_of_ofText? {cs : List Char} {a : Ipv4} (h : ofText? cs = some a) :
    endsInNumber cs = true := by
  obtain ⟨bytes, hbytes, -⟩ := mapM_of_ofText? h
  obtain ⟨last, hlast⟩ : ∃ last, (Text.splitOn '.' cs).getLast? = some last :=
    Option.ne_none_iff_exists'.mp fun hnone =>
      Text.splitOn_ne_nil '.' cs (List.getLast?_eq_none_iff.mp hnone)
  obtain ⟨n, -, hn⟩ := exists_of_mapM_of_mem hbytes (List.mem_of_getLast? hlast)
  obtain ⟨hne, hdigits, -⟩ := isDigit_of_byte? hn
  have hlabels : labels cs = Text.splitOn '.' cs := by
    refine if_neg ?_
    rintro ⟨-, hempty⟩
    rw [hlast, Option.some.injEq] at hempty
    exact hne hempty
  rw [endsInNumber, hlabels, hlast]
  simp only [Bool.or_eq_true, Bool.and_eq_true, List.all_eq_true, Bool.not_eq_true',
    List.isEmpty_eq_false_iff]
  exact Or.inl ⟨hne, hdigits⟩

/-- Besides the points there are only digits in such a text. -/
theorem mem_of_ofText? {cs : List Char} {a : Ipv4} (h : ofText? cs = some a) {c : Char}
    (hc : c ∈ cs) : c = '.' ∨ c.isDigit = true := by
  obtain ⟨bytes, hbytes, -⟩ := mapM_of_ofText? h
  rw [← Text.intercalate_splitOn '.' cs] at hc
  rcases Text.mem_intercalate hc with hpoint | ⟨piece, hpiece, hmem⟩
  · exact Or.inl hpoint
  · obtain ⟨n, -, hn⟩ := exists_of_mapM_of_mem hbytes hpiece
    exact Or.inr ((isDigit_of_byte? hn).2.1 c hmem)

theorem not_mem_of_ofText? {cs : List Char} {a : Ipv4} (h : ofText? cs = some a) {c : Char}
    (hpoint : c ≠ '.') (hdigit : c.isDigit = false) : c ∉ cs := by
  intro hc
  rcases mem_of_ofText? h hc with heq | hdigit'
  · exact hpoint heq
  · rw [hdigit] at hdigit'
    cases hdigit'

/-- Four bytes with points in between are read as the number they are. -/
theorem ofText?_text (a : Ipv4) : ofText? a.text.toList = some a := by
  have hnumber : Bytes.toNat a.toBytes = a.bits.toNat := Bytes.toNat_ofBits (by decide) a.bits
  have hlength : a.toBytes.length = 4 := Bytes.length_ofBits 4 a.bits
  have hne : a.toBytes.map (fun b => Nat.toDigits 10 b.toNat) ≠ [] := by
    intro hnil
    rw [List.map_eq_nil_iff.mp hnil] at hlength
    cases hlength
  have hpoint : ∀ piece ∈ a.toBytes.map (fun b => Nat.toDigits 10 b.toNat), '.' ∉ piece := by
    intro piece hpiece hmem
    obtain ⟨b, -, rfl⟩ := List.mem_map.mp hpiece
    obtain ⟨d, hd, hdigit⟩ := Quantity.exists_digitChar_of_mem_toDigits (by decide) hmem
    have all : ∀ k ∈ List.range 10, '.' ≠ Nat.digitChar k := by decide
    exact all d (List.mem_range.mpr hd) hdigit
  have hread : (a.toBytes.map fun b => Nat.toDigits 10 b.toNat).mapM Ipv6.byte?
      = some (a.toBytes.map UInt8.toNat) := by
    rw [List.mapM_map]
    exact mapM_eq_pure_map (m := Option) fun b _ => byte?_toDigits b.toNat_lt
  rw [ofText?, toList_text, Text.splitOn_intercalate hne hpoint, hread]
  match hbytes : a.toBytes, hlength with
  | [w, x, y, z], _ =>
    rw [hbytes] at hnumber
    have hbits : ((w.toNat * 256 + x.toNat) * 256 + y.toNat) * 256 + z.toNat = a.bits.toNat := by
      rw [← hnumber]
      simp [Bytes.toNat]
    show some (⟨BitVec.ofNat 32 (((w.toNat * 256 + x.toNat) * 256 + y.toNat) * 256 + z.toNat)⟩
      : Ipv4) = some a
    rw [hbits, BitVec.ofNat_toNat, BitVec.setWidth_eq]

end Ipv4

/-! ### Groups -/

namespace Ipv6

/-- An address has eight groups of sixteen bits. -/
structure WellFormed (a : Ipv6) : Prop where
  length : a.groups.length = 8
  lt : ∀ g ∈ a.groups, g < limit 16

/-- Groups in hexadecimal with colons in between, as characters. -/
def join (groups : List Nat) : List Char :=
  List.intercalate [':'] (groups.map (Nat.toDigits 16))

theorem toList_groupsText (groups : List Nat) : (groupsText groups).toList = join groups := by
  rw [groupsText, String.toList_intercalate, List.map_map, join]
  have heach : String.toList ∘ Text.hexDigits = Nat.toDigits 16 := by
    funext g
    exact String.toList_ofList
  rw [heach]
  rfl

theorem not_mem_toDigits {g : Nat} {c : Char} (hc : ∀ d ∈ List.range 16, c ≠ Nat.digitChar d) :
    c ∉ Nat.toDigits 16 g := by
  intro hmem
  obtain ⟨d, hd, hdigit⟩ := Quantity.exists_digitChar_of_mem_toDigits (by decide) hmem
  exact hc d (List.mem_range.mpr hd) hdigit

theorem colon_not_mem {g : Nat} : ':' ∉ Nat.toDigits 16 g :=
  not_mem_toDigits (by decide)

/-- Besides the colons there are only digits in joined groups. -/
theorem not_mem_join {groups : List Nat} {c : Char} (hcolon : c ≠ ':')
    (hdigit : ∀ d ∈ List.range 16, c ≠ Nat.digitChar d) : c ∉ join groups := by
  intro hc
  rcases Text.mem_intercalate hc with heq | ⟨piece, hpiece, hmem⟩
  · exact hcolon heq
  · obtain ⟨g, -, rfl⟩ := List.mem_map.mp hpiece
    exact not_mem_toDigits hdigit hmem

/-- Nor are there others in the text of an address. -/
theorem not_mem_text {a : Ipv6} {c : Char} (hcolon : c ≠ ':')
    (hdigit : ∀ d ∈ List.range 16, c ≠ Nat.digitChar d) : c ∉ a.text.toList := by
  rw [text]
  dsimp only
  split
  · rw [toList_groupsText]
    exact not_mem_join hcolon hdigit
  · simp [toList_groupsText, not_mem_join hcolon hdigit, hcolon]

theorem group?_toDigits {g : Nat} (h : g < limit 16) : group? (Nat.toDigits 16 g) = some g := by
  have hempty : (Nat.toDigits 16 g).isEmpty = false := by
    rw [List.isEmpty_eq_false_iff]
    exact Nat.toDigits_ne_nil
  have hlength : (Nat.toDigits 16 g).length ≤ 4 :=
    (Nat.length_toDigits_le_iff (by decide) (by decide)).mpr h
  have hshort : ¬ ((Nat.toDigits 16 g).isEmpty = true ∨ 4 < (Nat.toDigits 16 g).length) := by
    simp [hempty, hlength]
  have hlower : Text.Lowercase (List.replicate 0 '0' ++ Nat.toDigits 16 g) :=
    Quantity.lowercase_digits (by decide) (by decide) 0 g
  rw [group?, if_neg hshort]
  exact Text.digits?_of_toLower (by decide) (by decide) hlower.toLower_eq

/-- Groups are read from their text, whether an IPv4 address might end it or not. -/
theorem groups?_join {groups : List Nat} (last : Bool) (h : ∀ g ∈ groups, g < limit 16) :
    groups? last (join groups) = some groups := by
  rcases List.eq_nil_or_concat groups with rfl | ⟨front, g, hgroups⟩
  · rfl
  · rw [List.concat_eq_append] at hgroups
    subst hgroups
    have hsplit : Text.splitOn ':' (join (front ++ [g]))
        = (front ++ [g]).map (Nat.toDigits 16) := by
      refine Text.splitOn_intercalate (by simp) fun piece hpiece => ?_
      obtain ⟨g', -, rfl⟩ := List.mem_map.mp hpiece
      exact colon_not_mem
    have hempty : (join (front ++ [g])).isEmpty = false := by
      rw [List.isEmpty_eq_false_iff]
      intro hnil
      rw [hnil] at hsplit
      cases front with
      | nil => exact Nat.toDigits_ne_nil (List.cons.inj hsplit).1.symm
      | cons g' front => simp [Text.splitOn] at hsplit
    have hfront : (front.map (Nat.toDigits 16)).mapM group? = some front := by
      rw [List.mapM_map]
      have hread := mapM_eq_pure_map (m := Option) (g := id) fun g' (hg' : g' ∈ front) =>
        group?_toDigits (h g' (List.mem_append_left [g] hg'))
      rw [List.map_id] at hread
      exact hread
    have hpoint : '.' ∉ Nat.toDigits 16 g := not_mem_toDigits (by decide)
    have hg : g < limit 16 := h g (by simp)
    simp [groups?, hempty, hsplit, hfront, hpoint, group?_toDigits hg]

/-! ### The first double colon -/

/-- No double colon begins with another character. -/
theorem splitGap_append {piece : List Char} (h : ':' ∉ piece) (tail : List Char) :
    splitGap (piece ++ tail)
      = (splitGap tail).map fun (before, after) => (piece ++ before, after) := by
  induction piece with
  | nil => simp
  | cons c piece ih =>
    rw [List.mem_cons, not_or] at h
    rw [List.cons_append, splitGap, ih h.2, Option.map_map]
    · rfl
    · rintro rest rfl
      exact absurd rfl h.1

/-- A colon in front of another character is a single one. -/
theorem splitGap_colon {c : Char} (h : c ≠ ':') (tail : List Char) :
    splitGap (':' :: c :: tail)
      = (splitGap (c :: tail)).map fun (before, after) => (':' :: before, after) := by
  rw [splitGap]
  rintro rest - heq
  exact absurd (List.cons.inj heq).1 h

/-- Behind groups the first double colon is that of what follows. -/
theorem splitGap_join (groups : List Nat) (tail : List Char) :
    splitGap (join groups ++ tail)
      = (splitGap tail).map fun (before, after) => (join groups ++ before, after) := by
  induction groups with
  | nil => simp [join]
  | cons g groups ih =>
    cases groups with
    | nil =>
      have hone : join [g] = Nat.toDigits 16 g := by simp [join]
      rw [hone]
      exact splitGap_append colon_not_mem tail
    | cons g' groups =>
      have hjoin : join (g :: g' :: groups) = Nat.toDigits 16 g ++ ':' :: join (g' :: groups) := by
        simp [join, List.intercalate_cons_cons]
      -- The next group starts with a digit, so the colon in front of it is a single one.
      obtain ⟨c, rest, hnext⟩ : ∃ c rest, join (g' :: groups) = c :: rest ∧ c ≠ ':' := by
        have hne : Nat.toDigits 16 g' ≠ [] := Nat.toDigits_ne_nil
        cases hdigits : Nat.toDigits 16 g' with
        | nil => exact absurd hdigits hne
        | cons c cs =>
          have hc : c ≠ ':' := by
            rintro rfl
            exact colon_not_mem (g := g') (by simp [hdigits])
          cases groups with
          | nil => exact ⟨c, cs, by simp [join, hdigits], hc⟩
          | cons g'' groups =>
            exact ⟨c, _, by simp [join, List.intercalate_cons_cons, hdigits]; rfl, hc⟩
      obtain ⟨hnext, hc⟩ := hnext
      rw [hjoin, List.append_assoc, splitGap_append colon_not_mem, List.cons_append, hnext,
        List.cons_append, splitGap_colon hc, ← List.cons_append, ← hnext, ih, Option.map_map,
        Option.map_map]
      simp [Function.comp_def]

/-! ### The longest run of zeros -/

theorem eq_replicate_append (groups : List Nat) :
    groups = List.replicate (zeroRun groups) 0 ++ groups.drop (zeroRun groups) := by
  induction groups with
  | nil => rfl
  | cons g groups ih =>
    by_cases hg : g = 0
    · have hrun : zeroRun (g :: groups) = zeroRun groups + 1 := by simp [zeroRun, hg]
      rw [hrun, List.replicate_succ, List.drop_succ_cons, List.cons_append, ← ih, hg]
    · have hrun : zeroRun (g :: groups) = 0 := by simp [zeroRun, hg]
      rw [hrun]
      rfl

/-- What is found is a run of zeros, unless there is none. -/
theorem longestRun_eq_append (start : Nat) (groups : List Nat) :
    (longestRun start groups).2 = 0 ∨ ∃ before after,
      groups = before ++ List.replicate (longestRun start groups).2 0 ++ after
        ∧ (longestRun start groups).1 = start + before.length := by
  induction groups generalizing start with
  | nil => exact Or.inl rfl
  | cons g groups ih =>
    rw [longestRun]
    split
    · exact Or.inr ⟨[], _, eq_replicate_append (g :: groups), rfl⟩
    · -- A longer run stands further on.
      rcases ih (start + 1) with hzero | ⟨before, after, hgroups, hstart⟩
      · exact Or.inl hzero
      · refine Or.inr ⟨g :: before, after, ?_, ?_⟩
        · rw [List.cons_append, List.cons_append, ← hgroups]
        · rw [hstart, List.length_cons]
          omega

/-! ### The text of an address -/

/-- An address is read from its text. -/
theorem ofText?_text {a : Ipv6} (h : a.WellFormed) : ofText? a.text.toList = some a := by
  obtain ⟨groups⟩ := a
  obtain ⟨hlength, hlt⟩ := h
  dsimp only at hlength hlt
  rw [text]
  dsimp only
  split
  · -- No group is left out.
    have hgap : splitGap (join groups) = none := by
      have hjoin := splitGap_join groups []
      rw [List.append_nil] at hjoin
      exact hjoin
    simp [toList_groupsText, ofText?, hgap, groups?_join true hlt, hlength]
  · next hlong =>
    rcases longestRun_eq_append 0 groups with hzero | ⟨before, after, hgroups, hstart⟩
    · omega
    · generalize hrun : longestRun 0 groups = run at *
      obtain ⟨start, length⟩ := run
      dsimp only at hlong hgroups hstart ⊢
      rw [Nat.zero_add] at hstart
      subst hstart
      have htake : groups.take before.length = before := by
        rw [hgroups, List.append_assoc, List.take_left]
      have hdrop : groups.drop (before.length + length) = after := by
        have hfront : before.length + length = (before ++ List.replicate length 0).length := by simp
        rw [hgroups, hfront, List.drop_left]
      have hbefore : ∀ g ∈ before, g < limit 16 := fun g hg => hlt g (by simp [hgroups, hg])
      have hafter : ∀ g ∈ after, g < limit 16 := fun g hg => hlt g (by simp [hgroups, hg])
      have hcount : before.length + length + after.length = 8 := by
        rw [← hlength, hgroups]
        simp [Nat.add_assoc]
      have hgap : splitGap (join before ++ ':' :: ':' :: join after)
          = some (join before, join after) := by
        rw [splitGap_join]
        simp [splitGap]
      have htext : (groupsText (groups.take before.length) ++ "::"
          ++ groupsText (groups.drop (before.length + length))).toList
            = join before ++ ':' :: ':' :: join after := by
        rw [htake, hdrop]
        simp [toList_groupsText]
      have hroom : before.length + after.length ≤ 7 := by omega
      have hleft : 8 - (before.length + after.length) = length := by omega
      rw [htext, ofText?, hgap]
      simp [groups?_join false hbefore, groups?_join true hafter, hroom, hleft, hgroups]

/-! ### What is read -/

theorem lt_of_group? {cs : List Char} {g : Nat} (h : group? cs = some g) : g < limit 16 := by
  obtain ⟨hshort, hdigits⟩ := Option.ite_none_left_eq_some.mp h
  have hlength : cs.length ≤ 4 := by
    rw [not_or] at hshort
    omega
  exact Nat.lt_of_lt_of_le (Text.digits?_lt hdigits) (Nat.pow_le_pow_right (by decide) hlength)

theorem lt_of_embedded? {cs : List Char} {groups : List Nat} (h : embedded? cs = some groups) :
    ∀ g ∈ groups, g < limit 16 := by
  simp only [embedded?, Option.bind_eq_bind, Option.bind_eq_some_iff] at h
  obtain ⟨bytes, hbytes, hgroups⟩ := h
  split at hgroups
  · next a b c d =>
    cases hgroups
    have hbyte : ∀ n ∈ [a, b, c, d], n < 256 := by
      intro n hn
      obtain ⟨piece, -, hpiece⟩ := exists_of_mem_of_mapM hbytes hn
      exact (Ipv4.isDigit_of_byte? hpiece).2.2
    have ha := hbyte a (by simp)
    have hb := hbyte b (by simp)
    have hc := hbyte c (by simp)
    have hd := hbyte d (by simp)
    have hlimit : limit 16 = 65536 := rfl
    intro g hg
    simp only [List.mem_cons, List.not_mem_nil, or_false] at hg
    rcases hg with rfl | rfl <;> omega
  · cases hgroups

/-- What is read between colons are the pieces of a text. Only the last one may hold two groups. -/
theorem groups?_cases {last : Bool} {cs : List Char} {groups : List Nat}
    (h : groups? last cs = some groups) :
    cs = [] ∧ groups = [] ∨ ∃ front back,
      (Text.splitOn ':' cs).dropLast.mapM group? = some front ∧ groups = front ++ back
        ∧ (embedded? ((Text.splitOn ':' cs).getLast?.getD []) = some back
          ∨ ∃ g, group? ((Text.splitOn ':' cs).getLast?.getD []) = some g ∧ back = [g]) := by
  unfold groups? at h
  split at h
  · next hempty =>
    cases h
    exact Or.inl ⟨List.isEmpty_iff.mp hempty, rfl⟩
  · simp only [Option.bind_eq_bind, Option.bind_eq_some_iff] at h
    obtain ⟨front, hfront, hback⟩ := h
    refine Or.inr ⟨front, ?_⟩
    split at hback
    · simp only [Option.bind_eq_some_iff, Option.pure_def, Option.some.injEq] at hback
      obtain ⟨back, hembedded, rfl⟩ := hback
      exact ⟨back, hfront, rfl, Or.inl hembedded⟩
    · simp only [Option.bind_eq_some_iff, Option.pure_def, Option.some.injEq] at hback
      obtain ⟨g, hg, rfl⟩ := hback
      exact ⟨[g], hfront, rfl, Or.inr ⟨g, hg, rfl⟩⟩

theorem lt_of_groups? {last : Bool} {cs : List Char} {groups : List Nat}
    (h : groups? last cs = some groups) : ∀ g ∈ groups, g < limit 16 := by
  rcases groups?_cases h with ⟨-, rfl⟩ | ⟨front, back, hfront, rfl, hback⟩
  · intro g hg
    cases hg
  · intro g hg
    rcases List.mem_append.mp hg with hmem | hmem
    · obtain ⟨piece, -, hpiece⟩ := exists_of_mem_of_mapM hfront hmem
      exact lt_of_group? hpiece
    · rcases hback with hembedded | ⟨g', hg', rfl⟩
      · exact lt_of_embedded? hembedded g hmem
      · rw [List.mem_singleton.mp hmem]
        exact lt_of_group? hg'

/-- Whatever is read has eight groups of sixteen bits. -/
theorem wellFormed_of_ofText? {cs : List Char} {a : Ipv6} (h : ofText? cs = some a) :
    a.WellFormed := by
  unfold ofText? at h
  split at h
  · simp only [Option.bind_eq_bind, Option.bind_eq_some_iff] at h
    obtain ⟨groups, hgroups, ha⟩ := h
    obtain ⟨hlength, rfl⟩ : groups.length = 8 ∧ a = ⟨groups⟩ := by
      obtain ⟨hlength, ha⟩ := Option.ite_none_right_eq_some.mp ha
      exact ⟨hlength, (Option.some.inj ha).symm⟩
    exact ⟨hlength, lt_of_groups? hgroups⟩
  · simp only [Option.bind_eq_bind, Option.bind_eq_some_iff] at h
    obtain ⟨front, hfront, back, hback, ha⟩ := h
    obtain ⟨hcount, ha⟩ := Option.ite_none_right_eq_some.mp ha
    obtain rfl := Option.some.inj ha
    refine ⟨?_, fun g hg => ?_⟩
    · simp only [List.length_append, List.length_replicate]
      omega
    · simp only [List.mem_append] at hg
      rcases hg with (hg | hg) | hg
      · exact lt_of_groups? hfront g hg
      · rw [List.eq_of_mem_replicate hg]
        exact limit_pos 16
      · exact lt_of_groups? hback g hg

/-- A text without a colon is at most two groups, so it is no address. -/
theorem ofText?_of_colon_not_mem {cs : List Char} (h : ':' ∉ cs) : ofText? cs = none := by
  have hgap : splitGap cs = none := by
    have happend := splitGap_append h []
    rw [List.append_nil] at happend
    exact happend
  have hsplit : Text.splitOn ':' cs = [cs] := Text.splitOn_of_not_mem h
  refine Option.eq_none_iff_forall_ne_some.mpr fun a ha => ?_
  simp only [ofText?, hgap, Option.bind_eq_bind, Option.bind_eq_some_iff] at ha
  obtain ⟨groups, hgroups, ha⟩ := ha
  obtain ⟨hlength, -⟩ := Option.ite_none_right_eq_some.mp ha
  rcases groups?_cases hgroups with ⟨-, rfl⟩ | ⟨front, back, hfront, rfl, hback⟩
  · cases hlength
  · rw [hsplit] at hfront
    obtain rfl : [] = front := Option.some.inj hfront
    rcases hback with hembedded | ⟨g, -, rfl⟩
    · simp only [embedded?, Option.bind_eq_bind, Option.bind_eq_some_iff] at hembedded
      obtain ⟨bytes, -, htwo⟩ := hembedded
      split at htwo
      · cases htwo
        cases hlength
      · cases htwo
    · cases hlength

end Ipv6

/-! ### Addresses of either kind -/

namespace IpAddress

theorem ofText?_text_v4 (a : Ipv4) : ofText? a.text.toList = some (.v4 a) := by
  rw [ofText?, Ipv4.ofText?_text]

/-- The text of an IPv6 address has colons, so it is not read as four bytes. -/
theorem ofText?_text_v6 {a : Ipv6} (h : a.WellFormed) : ofText? a.text.toList = some (.v6 a) := by
  have hread := Ipv6.ofText?_text h
  have hcolon : ':' ∈ a.text.toList := by
    by_contra hnot
    rw [Ipv6.ofText?_of_colon_not_mem hnot] at hread
    cases hread
  have hfour : Ipv4.ofText? a.text.toList = none := by
    refine Option.eq_none_iff_forall_ne_some.mpr fun b hb => ?_
    exact Ipv4.not_mem_of_ofText? hb (by decide) (by decide) hcolon
  rw [ofText?, hfour, hread]
  rfl

end IpAddress

end SafeOps
