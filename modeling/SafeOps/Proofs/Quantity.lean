import SafeOps.Proofs.Failable
import SafeOps.Proofs.Text.Digits
import SafeOps.Quantity

/-!
# `SafeOps.Proofs.Quantity`: numbers survive being written in digits

A quantity is shown in hexadecimal digits of either case behind a mark, or in decimal digits, and
zeros may stand before its highest digit: `Spells` says which texts show it. `read_of_spells` is
the round trip: a quantity of any width is read from all of them, at any width that holds it.
`read_hex` is the case of the text the library writes itself.

A quantity is written with its highest digit first, and `readLow` reads a hexadecimal text from
its end. So what was read at some point is what the low digits spell, and what is left to read is
the text of the number without them. `readLow_hexDigits` states this for any place the reader is
at, by induction on the number, a digit at a time.

A decimal text is read from its start. What was read at some point is kept in two parts, complete
groups of nineteen digits and those after them, and `Sofar` says which number the two parts are.
`readHigh_decimal` takes the reader over all digits of a number.
-/

set_option autoImplicit false

namespace SafeOps.Quantity

/-- A text shows a number. -/
inductive Spells (n : Nat) : String → Prop
  /-- Hexadecimal digits of either case, behind the mark. -/
  | hex {mark : String} {cs : List Char} (zeros : Nat) (hmark : mark ∈ ["0x", "0X"])
      (hdigits : cs.map Char.toLower = List.replicate zeros '0' ++ Nat.toDigits 16 n) :
      Spells n (mark ++ String.ofList cs)
  /-- Decimal digits. -/
  | decimal (zeros : Nat) :
      Spells n (String.ofList (List.replicate zeros '0' ++ Nat.toDigits 10 n))

/-! ### Digits -/

theorem digit?_digitChar {radix d : Nat} (hradix : radix ≤ 16) (h : d < radix) :
    Text.digit? radix (asciiByte (Nat.digitChar d)).toNat = some d :=
  (Text.ShowsDigit.digitChar (Nat.lt_of_lt_of_le h hradix)).digit?_asciiByte h

theorem toNat_digitChar_lt {d : Nat} (h : d < 16) : (Nat.digitChar d).toNat < 128 :=
  (Text.ShowsDigit.digitChar h).toNat_lt

theorem exists_digitChar_of_mem_toDigits {radix n : Nat} (hradix : 1 < radix) {c : Char}
    (h : c ∈ Nat.toDigits radix n) : ∃ d, d < radix ∧ c = Nat.digitChar d := by
  induction n using Nat.strongRecOn with
  | ind n ih =>
    rcases Nat.lt_or_ge n radix with hlt | hge
    · rw [Nat.toDigits_of_lt_base hlt, List.mem_singleton] at h
      exact ⟨n, hlt, h⟩
    · rw [Nat.toDigits_of_base_le hradix hge, List.mem_append, List.mem_singleton] at h
      rcases h with h | h
      · exact ih (n / radix) (Nat.div_lt_self (by omega) hradix) h
      · exact ⟨n % radix, Nat.mod_lt n (by omega), h⟩

/-- The digits of a number, and the zeros before them, are those of the radix. -/
theorem exists_digitChar_of_mem {radix n zeros : Nat} (hradix : 1 < radix) {c : Char}
    (h : c ∈ List.replicate zeros '0' ++ Nat.toDigits radix n) :
    ∃ d, d < radix ∧ c = Nat.digitChar d := by
  rcases List.mem_append.mp h with hzero | hdigit
  · exact ⟨0, by omega, List.eq_of_mem_replicate hzero⟩
  · exact exists_digitChar_of_mem_toDigits hradix hdigit

theorem lowercase_digits {radix : Nat} (hradix : 1 < radix) (hle : radix ≤ 16) (zeros n : Nat) :
    Text.Lowercase (List.replicate zeros '0' ++ Nat.toDigits radix n) := by
  intro c hc
  obtain ⟨d, hd, hdigit⟩ := exists_digitChar_of_mem hradix hc
  exact ⟨d, by omega, hdigit⟩

/-- The text the library writes is one of those that show a quantity. -/
theorem spells_hex {width : Nat} (x : BitVec width) : Spells x.toNat (hex x) :=
  .hex 0 List.mem_cons_self (lowercase_digits (by decide) (by decide) 0 x.toNat).toLower_eq

/-- So is the text that stands in messages. -/
theorem spells_decimal {width : Nat} (x : BitVec width) : Spells x.toNat (decimal x) :=
  .decimal 0

/-! ### Hexadecimal digits -/

/-- A digit is read if what it stands for is below the limit. -/
theorem readLow_digit {width d position value : Nat} {c : Char} {rest : Bytes}
    (hc : Text.ShowsDigit d c) (hfits : d * limit position < limit width) :
    readLow width 4 (asciiByte c :: rest) position value
      = readLow width 4 rest (position + 4) (value + d * limit position) := by
  have hroom : ¬ (d ≠ 0 ∧ (width ≤ position
      ∨ limit ((width + 63) / 64 * 64) ≤ d * limit position)) := by
    rintro ⟨hne, hle | hle⟩
    · -- A digit that is not zero is worth at least its place.
      have hplace : limit width ≤ limit position := limit_le_limit hle
      have hworth : 1 * limit position ≤ d * limit position :=
        Nat.mul_le_mul_right _ (Nat.one_le_iff_ne_zero.mpr hne)
      omega
    · have hgroups : limit width ≤ limit ((width + 63) / 64 * 64) :=
        limit_le_limit (by omega)
      omega
  have hdigit : Text.digit? (limit 4) (asciiByte c).toNat = some d := hc.digit?_asciiByte hc.lt
  have hseparator : asciiByte c ≠ separator := fun heq =>
    hc.asciiByte_notMem (heq ▸ List.mem_cons_self)
  rw [readLow, if_neg hseparator, hdigit]
  exact if_neg hroom

/-- Zeros are read at any place, also beyond the width. -/
theorem readLow_zeros {width position value : Nat} {cs : List Char}
    (h : ∀ c ∈ cs, Text.ShowsDigit 0 c) (hvalue : value < limit width) :
    readLow width 4 (cs.map asciiByte) position value = .ok value := by
  induction cs generalizing position with
  | nil => exact if_pos hvalue
  | cons c cs ih =>
    have hzero : 0 * limit position = 0 := Nat.zero_mul _
    rw [List.map_cons, readLow_digit (h c List.mem_cons_self) (by omega), hzero, Nat.add_zero]
    exact ih fun d hd => h d (List.mem_cons_of_mem c hd)

/-- Read from any place on, the digits of a number add it at that place. -/
theorem readLow_hexDigits {width n zeros : Nat} {cs : List Char} (position value : Nat)
    (hcs : cs.map Char.toLower = List.replicate zeros '0' ++ Nat.toDigits 16 n)
    (h : value + n * limit position < limit width) :
    readLow width 4 (cs.map asciiByte).reverse position value
      = .ok (value + n * limit position) := by
  induction n using Nat.strongRecOn generalizing cs position value with
  | ind n ih =>
    rcases Nat.lt_or_ge n 16 with hlt | hge
    · -- The highest digit is the last that counts. Zeros are all that is left.
      rw [Nat.toDigits_of_lt_base hlt] at hcs
      obtain ⟨front, last, rfl, hfront, hlast⟩ := List.map_eq_append_iff.mp hcs
      obtain ⟨c, rfl, hc⟩ := List.map_eq_singleton_iff.mp hlast
      have hzeros : ∀ c ∈ front.reverse, Text.ShowsDigit 0 c := by
        intro c hc
        have hmem : c.toLower ∈ front.map Char.toLower :=
          List.mem_map_of_mem (List.mem_reverse.mp hc)
        rw [hfront] at hmem
        exact ⟨by decide, List.eq_of_mem_replicate hmem⟩
      rw [List.map_append, List.reverse_append]
      show readLow width 4 (asciiByte c :: (front.map asciiByte).reverse) position value = _
      rw [readLow_digit ⟨hlt, hc⟩ (by omega), ← List.map_reverse, readLow_zeros hzeros h]
    · have hsplit : n % 16 * limit position + n / 16 * limit (position + 4)
          = n * limit position := by
        have hstep : limit (position + 4) = 16 * limit position := by
          rw [limit_add, Nat.mul_comm]
          rfl
        rw [hstep, ← Nat.mul_assoc, ← Nat.add_mul, Nat.mul_comm (n / 16), Nat.mod_add_div]
      -- The last digit is read first. What is left spells `n / 16`, four bits further up.
      rw [Nat.toDigits_of_base_le (by decide) hge, ← List.append_assoc] at hcs
      obtain ⟨front, last, rfl, hfront, hlast⟩ := List.map_eq_append_iff.mp hcs
      obtain ⟨c, rfl, hc⟩ := List.map_eq_singleton_iff.mp hlast
      have hnext := ih (n / 16) (by omega) (position + 4) (value + n % 16 * limit position)
        hfront (by omega)
      rw [List.map_append, List.reverse_append]
      show readLow width 4 (asciiByte c :: (front.map asciiByte).reverse) position value = _
      rw [readLow_digit ⟨Nat.mod_lt n (by decide), hc⟩ (by omega), hnext, Nat.add_assoc, hsplit]

/-- The hexadecimal texts of a number are read at any width that holds it. -/
theorem readBytes_of_hex {width n zeros : Nat} {mark : String} {cs : List Char}
    (hmark : mark ∈ ["0x", "0X"])
    (hcs : cs.map Char.toLower = List.replicate zeros '0' ++ Nat.toDigits 16 n)
    (h : n < limit width) :
    readBytes width (Bytes.ofText mark ++ cs.map asciiByte) = .ok n := by
  have hone : limit 0 = 1 := rfl
  have hfits : 0 + n * limit 0 < limit width := by rwa [hone, Nat.zero_add, Nat.mul_one]
  have hread := readLow_hexDigits 0 0 hcs hfits
  rw [hone, Nat.zero_add, Nat.mul_one] at hread
  simp only [List.mem_cons, List.not_mem_nil, or_false] at hmark
  rcases hmark with rfl | rfl
  · exact hread
  · exact hread

/-! ### Decimal digits -/

/-- The number that was read is kept as complete groups of digits and a part of one. -/
structure Sofar (n value chunk count : Nat) : Prop where
  eq : value * Nat.pow 10 count + chunk = n
  count_lt : count < 19

/-- A further digit is read if the number it makes is below the limit. -/
theorem readHigh_digit {width n value chunk count d : Nat} (h : Sofar n value chunk count)
    (hd : d < 10) (hfits : n * 10 + d < limit width) (rest : Bytes) :
    ∃ value' chunk' count', Sofar (n * 10 + d) value' chunk' count'
      ∧ readHigh width (asciiByte (Nat.digitChar d) :: rest) value chunk count
        = readHigh width rest value' chunk' count' := by
  have hshows := Text.ShowsDigit.digitChar (show d < 16 by omega)
  have hdigit : Text.digit? 10 (asciiByte (Nat.digitChar d)).toNat = some d :=
    hshows.digit?_asciiByte hd
  have hseparator : asciiByte (Nat.digitChar d) ≠ separator := fun heq =>
    hshows.asciiByte_notMem (heq ▸ List.mem_cons_self)
  have hnext : value * Nat.pow 10 (count + 1) + (chunk * 10 + d) = n * 10 + d := by
    rw [← h.eq]
    show value * (Nat.pow 10 count * 10) + (chunk * 10 + d) = _
    rw [Nat.add_mul, Nat.mul_assoc, Nat.add_assoc]
  rw [readHigh, if_neg hseparator, hdigit]
  by_cases hfull : count + 1 = 19
  · -- The digit completes a group, which is put together with those before it.
    rw [hfull] at hnext
    have htotal : value * 10000000000000000000 + (chunk * 10 + d) = n * 10 + d := hnext
    refine ⟨n * 10 + d, 0, 0, ⟨Nat.mul_one _, by decide⟩, ?_⟩
    simp only [hfull, if_true, htotal, if_pos hfits]
  · refine ⟨value, chunk * 10 + d, count + 1, ⟨hnext, ?_⟩, ?_⟩
    · have hlt := h.count_lt
      omega
    · simp only [hfull, if_false]

/-- Zeros before the first digit are read, whatever follows them. -/
theorem readHigh_zeros (width zeros : Nat) (rest : Bytes) :
    ∃ value chunk count, Sofar 0 value chunk count
      ∧ readHigh width ((List.replicate zeros '0').map asciiByte ++ rest) 0 0 0
        = readHigh width rest value chunk count := by
  induction zeros generalizing rest with
  | zero => exact ⟨0, 0, 0, ⟨rfl, by decide⟩, rfl⟩
  | succ zeros ih =>
    obtain ⟨value, chunk, count, hsofar, hread⟩ := ih (asciiByte '0' :: rest)
    obtain ⟨value', chunk', count', hsofar', hread'⟩ :=
      readHigh_digit hsofar (show 0 < 10 by decide) (Nat.pow_pos (by decide)) rest
    refine ⟨value', chunk', count', hsofar', ?_⟩
    -- One zero more is one more at the end, where the reader has come to.
    rw [List.replicate_succ', List.map_append, List.append_assoc]
    exact hread.trans hread'

/-- The digits of a number are read, whatever zeros stand before and whatever follows them. -/
theorem readHigh_decimal {width n : Nat} (h : n < limit width) (zeros : Nat) (rest : Bytes) :
    ∃ value chunk count, Sofar n value chunk count
      ∧ readHigh width
          ((List.replicate zeros '0' ++ Nat.toDigits 10 n).map asciiByte ++ rest) 0 0 0
        = readHigh width rest value chunk count := by
  induction n using Nat.strongRecOn generalizing rest with
  | ind n ih =>
    rcases Nat.lt_or_ge n 10 with hlt | hge
    · obtain ⟨value, chunk, count, hsofar, hread⟩ :=
        readHigh_zeros width zeros (asciiByte (Nat.digitChar n) :: rest)
      obtain ⟨value', chunk', count', hsofar', hread'⟩ :=
        readHigh_digit hsofar hlt (by rwa [Nat.zero_mul, Nat.zero_add]) rest
      rw [Nat.zero_mul, Nat.zero_add] at hsofar'
      refine ⟨value', chunk', count', hsofar', ?_⟩
      rw [Nat.toDigits_of_lt_base hlt, List.map_append, List.append_assoc]
      exact hread.trans hread'
    · -- All digits but the last are those of `n / 10`.
      obtain ⟨value, chunk, count, hsofar, hread⟩ := ih (n / 10) (by omega) (by omega)
        (asciiByte (Nat.digitChar (n % 10)) :: rest)
      have hlast : n / 10 * 10 + n % 10 = n := by omega
      obtain ⟨value', chunk', count', hsofar', hread'⟩ :=
        readHigh_digit hsofar (Nat.mod_lt n (by decide)) (by rwa [hlast]) rest
      rw [hlast] at hsofar'
      refine ⟨value', chunk', count', hsofar', ?_⟩
      rw [Nat.toDigits_of_base_le (by decide) hge, ← List.append_assoc, List.map_append,
        List.append_assoc]
      exact hread.trans hread'

/-- A text of digits has no mark in front, so it is read in decimal. -/
theorem readBytes_of_digits {width : Nat} {bs : Bytes}
    (h : ∀ b ∈ bs, 48 ≤ b.toNat ∧ b.toNat ≤ 57) : readBytes width bs = readHigh width bs 0 0 0 := by
  have hnone : ∀ mark rest, 57 < mark.toNat → bs ≠ 48 :: mark :: rest := by
    rintro mark rest hmark rfl
    exact Nat.not_le.mpr hmark (h mark (List.mem_cons_of_mem 48 List.mem_cons_self)).2
  unfold readBytes
  split
  · exact absurd rfl (hnone _ _ (by decide))
  · exact absurd rfl (hnone _ _ (by decide))
  · exact absurd rfl (hnone _ _ (by decide))
  · exact absurd rfl (hnone _ _ (by decide))
  · exact absurd rfl (hnone _ _ (by decide))
  · exact absurd rfl (hnone _ _ (by decide))
  · rfl

/-- The decimal texts of a number are read at any width that holds it. -/
theorem readBytes_of_decimal {width n : Nat} (zeros : Nat) (h : n < limit width) :
    readBytes width ((List.replicate zeros '0' ++ Nat.toDigits 10 n).map asciiByte) = .ok n := by
  have hdigits : ∀ b ∈ (List.replicate zeros '0' ++ Nat.toDigits 10 n).map asciiByte,
      48 ≤ b.toNat ∧ b.toNat ≤ 57 := by
    intro b hb
    obtain ⟨c, hc, rfl⟩ := List.mem_map.mp hb
    obtain ⟨d, hd, rfl⟩ := exists_digitChar_of_mem (by decide) hc
    have all : ∀ k ∈ List.range 10, 48 ≤ (asciiByte (Nat.digitChar k)).toNat
        ∧ (asciiByte (Nat.digitChar k)).toNat ≤ 57 := by decide
    exact all d (List.mem_range.mpr hd)
  obtain ⟨value, chunk, count, hsofar, hread⟩ := readHigh_decimal h zeros []
  rw [List.append_nil] at hread
  rw [readBytes_of_digits hdigits, hread, readHigh]
  simp only [hsofar.eq, if_pos h]

/-! ### Texts -/

theorem allDigits_of_hex {n zeros : Nat} {cs : List Char}
    (hdigits : cs.map Char.toLower = List.replicate zeros '0' ++ Nat.toDigits 16 n) :
    Text.AllDigits cs :=
  (lowercase_digits (by decide) (by decide) zeros n).allDigits hdigits

theorem allDigits_of_decimal (zeros n : Nat) :
    Text.AllDigits (List.replicate zeros '0' ++ Nat.toDigits 10 n) :=
  have hlowercase := lowercase_digits (by decide) (by decide) zeros n
  hlowercase.allDigits hlowercase.toLower_eq

theorem isBlank_of_spells {n : Nat} {text : String} (h : Spells n text) :
    ∀ c ∈ text.toList, Text.isBlank c = false := by
  cases h with
  | hex zeros hmark hdigits =>
    exact (allDigits_of_hex hdigits).isBlank_eq (List.mem_append_left [""] hmark)
  | decimal zeros =>
    have hblank := (allDigits_of_decimal zeros n).isBlank_eq (show "" ∈ _ by decide)
    rwa [String.empty_append] at hblank

/-- A quantity is read from every text that shows it, at any width that holds it. -/
theorem read_of_spells {width n : Nat} {text : String} (h : Spells n text)
    (hn : n < limit width) : read width text = .ok (BitVec.ofNat width n) := by
  have hbytes : readBytes width (Bytes.ofText text) = .ok n := by
    cases h with
    | hex zeros hmark hdigits =>
      rw [(allDigits_of_hex hdigits).ofText_eq]
      exact readBytes_of_hex hmark hdigits hn
    | decimal zeros =>
      have htext := (allDigits_of_decimal zeros n).ofText_eq ""
      rw [String.empty_append] at htext
      rw [htext]
      exact readBytes_of_decimal zeros hn
  rw [read, hbytes]
  rfl

/-- A quantity is read back at any width that holds it. -/
theorem read_hex {width width' : Nat} {x : BitVec width'} (h : x.toNat < limit width) :
    read width (hex x) = .ok (BitVec.ofNat width x.toNat) :=
  read_of_spells (spells_hex x) h

end SafeOps.Quantity
