import SafeOps.Proofs.Quantity
import SafeOps.Proofs.Url.Host

/-!
# `SafeOps.Proofs.Url.Ipv4`: the notations of an address

An IPv4 address has one text of its own but can be written in many ways: in one to four parts of
which the last fills the bytes that the others leave (`Parts`), each in decimal, octal or
hexadecimal (`Numeral`), and perhaps with a point at the end (`Written`).

`read_of_written` is the main result: a host in any of these notations is read as the address. The
reader takes the text for a name first. So what has to be known of a numeral is which characters it
has (`mem_alphabet_of_numeral`): they are mapped to lowercase, none of them ends the host, and
there is no hyphen among them, which a name in Punycode needs.
-/

set_option autoImplicit false

namespace SafeOps

namespace Ipv4

/-! ### Notations -/

/-- A text stands for a number. -/
inductive Numeral : Nat → List Char → Prop
  | decimal (n : Nat) : Numeral n (Nat.toDigits 10 n)
  | octal (zeros n : Nat) : Numeral n ('0' :: (List.replicate zeros '0' ++ Nat.toDigits 8 n))
  | hexadecimal {zeros n : Nat} {mark : Char} {cs : List Char} (hmark : mark ∈ ['x', 'X'])
      (hdigits : cs.map Char.toLower = List.replicate zeros '0' ++ Nat.toDigits 16 n) :
      Numeral n ('0' :: mark :: cs)
  /-- A mark without digits stands for zero. -/
  | mark {mark : Char} (hmark : mark ∈ ['x', 'X']) : Numeral 0 ['0', mark]

/-- An address is made of some bytes, and a last number for all the others. -/
inductive Parts (a : Ipv4) : List Nat → Prop
  | intro {firsts : Bytes} {last : Nat} (hfew : firsts.length ≤ 3)
      (hlast : last < limit (8 * (4 - firsts.length)))
      (haddress : a.bits.toNat
        = Bytes.toNat firsts * limit (8 * (4 - firsts.length)) + last) :
      Parts a (firsts.map UInt8.toNat ++ [last])

/-- A text stands for an address. -/
inductive Written (a : Ipv4) : List Char → Prop
  | plain {parts : List Nat} {texts : List (List Char)} (hparts : Parts a parts)
      (htexts : List.Forall₂ Numeral parts texts) :
      Written a (List.intercalate ['.'] texts)
  | closed {parts : List Nat} {texts : List (List Char)} (hparts : Parts a parts)
      (htexts : List.Forall₂ Numeral parts texts) :
      Written a (List.intercalate ['.'] (texts ++ [[]]))

/-! ### The characters of a numeral -/

/-- The characters that numerals are written with. -/
def alphabet : List Char :=
  "0123456789abcdefABCDEFxX".toList

theorem mem_alphabet_of_showsDigit {d : Nat} {c : Char} (h : Text.ShowsDigit d c) :
    c ∈ alphabet := by
  have all : ∀ x ∈ Text.digitTable, x.2 ∈ alphabet := by decide
  exact all (d, c) h.mem_digitTable

theorem mem_alphabet_of_mark : ∀ mark ∈ ['x', 'X'], mark ∈ alphabet :=
  forall_mem_of_all (by decide)

/-- Digits in one of the radices that numerals have are lowercase. -/
theorem lowercase_digits (radix zeros n : Nat) (h : radix ∈ [8, 10, 16]) :
    Text.Lowercase (List.replicate zeros '0' ++ Nat.toDigits radix n) := by
  have all : ∀ radix ∈ [8, 10, 16], 1 < radix ∧ radix ≤ 16 := by decide
  obtain ⟨hradix, hle⟩ := all radix h
  exact Quantity.lowercase_digits hradix hle zeros n

theorem mem_alphabet_of_digits {radix zeros n : Nat} {cs : List Char} (hradix : radix ∈ [8, 10, 16])
    (h : cs.map Char.toLower = List.replicate zeros '0' ++ Nat.toDigits radix n) {c : Char}
    (hc : c ∈ cs) : c ∈ alphabet := by
  obtain ⟨d, hd⟩ := (lowercase_digits radix zeros n hradix).allDigits h c hc
  exact mem_alphabet_of_showsDigit hd

theorem mem_alphabet_of_numeral {n : Nat} {cs : List Char} (h : Numeral n cs) {c : Char}
    (hc : c ∈ cs) : c ∈ alphabet := by
  cases h with
  | decimal =>
    have hradix : 10 ∈ [8, 10, 16] := by decide
    exact mem_alphabet_of_digits hradix (lowercase_digits 10 0 n hradix).toLower_eq hc
  | octal zeros =>
    have hradix : 8 ∈ [8, 10, 16] := by decide
    rcases List.mem_cons.mp hc with rfl | hc
    · decide
    · exact mem_alphabet_of_digits hradix (lowercase_digits 8 zeros n hradix).toLower_eq hc
  | hexadecimal hmark hdigits =>
    rcases List.mem_cons.mp hc with rfl | hc
    · decide
    · rcases List.mem_cons.mp hc with rfl | hc
      · exact mem_alphabet_of_mark _ hmark
      · exact mem_alphabet_of_digits (by decide) hdigits hc
  | mark hmark =>
    rcases List.mem_cons.mp hc with rfl | hc
    · decide
    · rw [List.mem_singleton.mp hc]
      exact mem_alphabet_of_mark _ hmark

theorem numeral_ne_nil {n : Nat} {cs : List Char} (h : Numeral n cs) : cs ≠ [] := by
  cases h with
  | decimal => exact Nat.toDigits_ne_nil
  | octal => exact List.cons_ne_nil _ _
  | hexadecimal => exact List.cons_ne_nil _ _
  | mark => exact List.cons_ne_nil _ _

/-! ### Numerals are read -/

theorem number?_decimal (n : Nat) : number? (Nat.toDigits 10 n) = some n := by
  rcases Nat.eq_zero_or_pos n with rfl | hpos
  · rfl
  · have hlower := (lowercase_digits 10 0 n (by decide)).toLower_eq
    have hvalue : Text.digits? 10 (Nat.toDigits 10 n) = some n :=
      Text.digits?_of_toLower (by decide) (by decide) hlower
    obtain ⟨c, cs, hdigits, hc⟩ := Text.exists_toDigits_eq_cons (Nat.ne_of_gt hpos)
    rw [hdigits] at hvalue ⊢
    -- Neither a mark nor a zero stands in front, so it is the last case of the reader.
    unfold number?
    split <;> simp_all

theorem number?_octal (zeros n : Nat) :
    number? ('0' :: (List.replicate zeros '0' ++ Nat.toDigits 8 n)) = some n := by
  have hlower := (lowercase_digits 8 zeros n (by decide)).toLower_eq
  have hvalue : Text.digits? 8 (List.replicate zeros '0' ++ Nat.toDigits 8 n) = some n :=
    Text.digits?_of_toLower (by decide) (by decide) hlower
  have hmark : ∀ c ∈ List.replicate zeros '0' ++ Nat.toDigits 8 n, c ∉ ['x', 'X'] := by
    intro c hc
    obtain ⟨d, hd, rfl⟩ := Quantity.exists_digitChar_of_mem (by decide) hc
    have all : ∀ d ∈ List.range 8, Nat.digitChar d ∉ ['x', 'X'] := by decide
    exact all d (List.mem_range.mpr hd)
  cases hcs : List.replicate zeros '0' ++ Nat.toDigits 8 n with
  | nil => exact absurd (List.append_eq_nil_iff.mp hcs).2 Nat.toDigits_ne_nil
  | cons c cs =>
    rw [hcs] at hvalue hmark
    have hc := hmark c List.mem_cons_self
    -- A digit and no mark follows the zero.
    unfold number?
    split <;> simp_all

/-- A numeral is read in lowercase. -/
theorem number?_of_numeral {n : Nat} {cs : List Char} (h : Numeral n cs) :
    number? (cs.map Char.toLower) = some n := by
  cases h with
  | decimal =>
    have hlower : (Nat.toDigits 10 n).map Char.toLower = Nat.toDigits 10 n :=
      (lowercase_digits 10 0 n (by decide)).toLower_eq
    rw [hlower]
    exact number?_decimal n
  | octal zeros =>
    rw [List.map_cons, (lowercase_digits 8 zeros n (by decide)).toLower_eq]
    exact number?_octal zeros n
  | @hexadecimal zeros _ mark digits hmark hdigits =>
    have all : ∀ mark ∈ ['x', 'X'], mark.toLower = 'x' := forall_mem_of_all (by decide)
    have hlower := (lowercase_digits 16 zeros n (by decide)).toLower_eq
    rw [List.map_cons, List.map_cons, all mark hmark, hdigits]
    show Text.digits? 16 (List.replicate zeros '0' ++ Nat.toDigits 16 n) = some n
    exact Text.digits?_of_toLower (by decide) (by decide) hlower
  | @mark mark hmark =>
    have all : ∀ mark ∈ ['x', 'X'], number? (['0', mark].map Char.toLower) = some 0 :=
      forall_mem_of_all (by decide)
    exact all mark hmark

/-! ### Parts are put together -/

theorem ofParts?_of_parts {a : Ipv4} {parts : List Nat} (h : Parts a parts) :
    ofParts? parts = some a := by
  obtain @⟨firsts, last, hfew, hlast, haddress⟩ := h
  have hreverse : (firsts.map UInt8.toNat ++ [last]).reverse
      = last :: (firsts.map UInt8.toNat).reverse := by
    rw [List.reverse_append, List.reverse_singleton, List.singleton_append]
  have hbytes : (firsts.map UInt8.toNat).map UInt8.ofNat = firsts := by
    rw [List.map_map]
    refine (List.map_congr_left fun b _ => ?_).trans (List.map_id firsts)
    exact UInt8.ofNat_toNat
  have hsmall : (firsts.map UInt8.toNat).reverse.any (255 < ·) = false := by
    rw [List.any_eq_false]
    intro n hn
    obtain ⟨b, -, rfl⟩ := List.mem_map.mp (List.mem_reverse.mp hn)
    have hb := b.toNat_lt
    simp only [decide_eq_true_eq]
    omega
  have hshort : ¬ 3 < firsts.length := by omega
  have hroom : ¬ limit (8 * (4 - firsts.length)) ≤ last := by omega
  rw [ofParts?, hreverse]
  simp only [List.length_reverse, List.length_map, List.reverse_reverse, hbytes, hsmall, hshort,
    hroom, Bool.false_eq_true, or_self, if_false, ← haddress, BitVec.ofNat_toNat,
    BitVec.setWidth_eq]

/-! ### Hosts -/

/-- The labels of a host are its pieces, unless the last one is empty. -/
theorem labels_intercalate {pieces : List (List Char)} (hne : pieces ≠ [])
    (hpoint : ∀ piece ∈ pieces, '.' ∉ piece) (hpiece : ∀ piece ∈ pieces, piece ≠ []) :
    labels (List.intercalate ['.'] pieces) = pieces := by
  rw [labels, Text.splitOn_intercalate hne hpoint]
  refine if_neg ?_
  rintro ⟨-, hempty⟩
  exact hpiece [] (List.mem_of_getLast? hempty) rfl

/-- A point at the end makes no difference. -/
theorem labels_intercalate_concat {pieces : List (List Char)} (hne : pieces ≠ [])
    (hpoint : ∀ piece ∈ pieces, '.' ∉ piece) :
    labels (List.intercalate ['.'] (pieces ++ [[]])) = pieces := by
  have hpoint' : ∀ piece ∈ pieces ++ [[]], '.' ∉ piece := by
    intro piece hmem
    rcases List.mem_append.mp hmem with hmem | hmem
    · exact hpoint piece hmem
    · rw [List.mem_singleton.mp hmem]
      exact List.not_mem_nil
  have hlength : 0 < pieces.length := List.length_pos_iff.mpr hne
  rw [labels, Text.splitOn_intercalate (by simp) hpoint']
  simp [hlength]

section

variable {a : Ipv4} {parts : List Nat} {texts : List (List Char)} {cs : List Char}

theorem exists_numeral_of_mem (htexts : List.Forall₂ Numeral parts texts) {text : List Char}
    (h : text ∈ texts) : ∃ n, Numeral n text := by
  induction htexts with
  | nil => cases h
  | cons hnumeral _ ih =>
    rcases List.mem_cons.mp h with rfl | h
    · exact ⟨_, hnumeral⟩
    · exact ih h

theorem texts_ne_nil (hparts : Parts a parts) (htexts : List.Forall₂ Numeral parts texts) :
    texts ≠ [] := by
  rintro rfl
  cases hparts with
  | intro => simpa using htexts.length_eq

/-- Besides the points only characters of numerals stand in an address. -/
theorem mem_alphabet_of_written (h : Written a cs) {c : Char} (hc : c ∈ cs) :
    c ∈ '.' :: alphabet := by
  cases h with
  | plain _ htexts =>
    rcases Text.mem_intercalate hc with rfl | ⟨text, htext, hmem⟩
    · exact List.mem_cons_self
    · obtain ⟨n, hn⟩ := exists_numeral_of_mem htexts htext
      exact List.mem_cons_of_mem '.' (mem_alphabet_of_numeral hn hmem)
  | closed _ htexts =>
    rcases Text.mem_intercalate hc with rfl | ⟨text, htext, hmem⟩
    · exact List.mem_cons_self
    · rcases List.mem_append.mp htext with htext | htext
      · obtain ⟨n, hn⟩ := exists_numeral_of_mem htexts htext
        exact List.mem_cons_of_mem '.' (mem_alphabet_of_numeral hn hmem)
      · rw [List.mem_singleton.mp htext] at hmem
        cases hmem

/-- So what these characters have in common can be found by trying them. -/
theorem forall_of_written (h : Written a cs) {P : Char → Prop} [DecidablePred P]
    (hall : ('.' :: alphabet).all (fun c => P c) = true) : ∀ c ∈ cs, P c :=
  fun c hc => forall_mem_of_all hall c (mem_alphabet_of_written h hc)

/-- The labels of an address in lowercase are its numerals in lowercase. -/
theorem labels_of_written (h : Written a cs) : ∃ parts texts, Parts a parts
    ∧ List.Forall₂ Numeral parts texts
    ∧ labels (cs.map Char.toLower) = texts.map (List.map Char.toLower) := by
  have hpieces : ∀ {parts texts}, Parts a parts → List.Forall₂ Numeral parts texts →
      texts.map (List.map Char.toLower) ≠ []
        ∧ ∀ piece ∈ texts.map (List.map Char.toLower), '.' ∉ piece ∧ piece ≠ [] := by
    intro parts texts hparts htexts
    refine ⟨?_, fun piece hpiece => ?_⟩
    · rw [ne_eq, List.map_eq_nil_iff]
      exact texts_ne_nil hparts htexts
    · obtain ⟨text, htext, rfl⟩ := List.mem_map.mp hpiece
      obtain ⟨n, hn⟩ := exists_numeral_of_mem htexts htext
      refine ⟨fun hmem => ?_, fun hnil => numeral_ne_nil hn (List.map_eq_nil_iff.mp hnil)⟩
      obtain ⟨c, hc, hlower⟩ := List.mem_map.mp hmem
      have all : ∀ c ∈ alphabet, c.toLower ≠ '.' := forall_mem_of_all (by decide)
      exact all c (mem_alphabet_of_numeral hn hc) hlower
  cases h with
  | @plain parts texts hparts htexts =>
    obtain ⟨hne, hall⟩ := hpieces hparts htexts
    refine ⟨parts, texts, hparts, htexts, ?_⟩
    rw [Text.map_intercalate]
    exact labels_intercalate hne (fun piece hp => (hall piece hp).1) fun piece hp =>
      (hall piece hp).2
  | @closed parts texts hparts htexts =>
    obtain ⟨hne, hall⟩ := hpieces hparts htexts
    refine ⟨parts, texts, hparts, htexts, ?_⟩
    rw [Text.map_intercalate, List.map_append]
    exact labels_intercalate_concat hne fun piece hp => (hall piece hp).1

/-- A host in any notation of an address is read as the address. -/
theorem read_of_written (h : Written a cs) : Url.Host.read cs = .ok (.ipv4 a) := by
  have hascii : ∀ c ∈ cs, c.toNat < 128 := forall_of_written h (by decide)
  have hallowed : ∀ c ∈ cs,
      Url.Domain.isForbidden c = false ∧ Url.Domain.isForbidden c.toLower = false :=
    forall_of_written h (by decide)
  have hplain : ∀ c ∈ cs, c.toLower ≠ '-' := forall_of_written h (by decide)
  obtain ⟨parts, texts, hparts, htexts, hlabels⟩ := labels_of_written h
  have hvalues : (texts.map (List.map Char.toLower)).mapM number? = some parts := by
    rw [List.mapM_map]
    exact mapM_eq_some_iff.mpr (htexts.imp fun _ _ hnumeral => number?_of_numeral hnumeral)
  have haddress : ofHost? (cs.map Char.toLower) = some a := by
    rw [ofHost?, hlabels, hvalues]
    exact ofParts?_of_parts hparts
  have hends : endsInNumber (cs.map Char.toLower) = true := by
    obtain ⟨text, hlast⟩ : ∃ text, texts.getLast? = some text :=
      Option.ne_none_iff_exists'.mp fun hnone =>
        texts_ne_nil hparts htexts (List.getLast?_eq_none_iff.mp hnone)
    obtain ⟨n, hn⟩ := exists_numeral_of_mem htexts (List.mem_of_getLast? hlast)
    simp [endsInNumber, hlabels, hlast, number?_of_numeral hn]
  refine Url.Host.read_of_number hascii hallowed ?_ hends haddress
  -- A label in Punycode has hyphens.
  rintro label hlabel ⟨tail, rfl⟩
  have hhyphen : '-' ∈ cs.map Char.toLower :=
    Text.mem_of_mem_splitOn hlabel (List.mem_append_left tail (by decide))
  obtain ⟨c, hc, hlower⟩ := List.mem_map.mp hhyphen
  exact hplain c hc hlower

end

end Ipv4

end SafeOps
