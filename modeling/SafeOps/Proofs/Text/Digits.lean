import Mathlib.Data.List.Induction
import SafeOps.Proofs.Text.Ascii
import SafeOps.Text.Blank
import SafeOps.Text.Digits

/-!
# `SafeOps.Proofs.Text.Digits`: digits of either case

Numbers and byte strings are written with lowercase digits and read from digits of either case.
`ShowsDigit` is what a character has to be for a digit, and only those in `digitTable` are that
(`ShowsDigit.mem_digitTable`). So what the readers ask of a digit is looked up in this table: its
value, that it is one byte, and that it is no mark, no separator and no blank.

`AllDigits` says the same of a row of characters. Behind a mark such a row is a byte for each
character (`AllDigits.ofText_eq`) and has no blanks to be trimmed (`AllDigits.isBlank_eq`).

`digits?` reads the number that a row of digits spells, in any radix: the digits of a number are
read as the number, with zeros before them and letters of either case (`digits?_of_toLower`).
`decimalValue` is for rows that are known to have decimal digits only. Such a row is the one row of
digits of its value if there is no zero to leave out in front (`toDigits_decimalValue`).
-/

set_option autoImplicit false

namespace SafeOps.Text

/-- A character is the digit for `d`, or the uppercase letter for it. -/
structure ShowsDigit (d : Nat) (c : Char) : Prop where
  lt : d < 16
  toLower : c.toLower = Nat.digitChar d

/-- The digits below sixteen, and then the uppercase letters, with what they stand for. -/
def digitTable : List (Nat × Char) :=
  (List.range 16).map (fun d => (d, Nat.digitChar d))
    ++ (List.range 6).map fun k => (10 + k, Char.ofNat (65 + k))

namespace ShowsDigit

variable {d : Nat} {c : Char}

theorem digitChar (h : d < 16) : ShowsDigit d (Nat.digitChar d) := by
  have all : ∀ k ∈ List.range 16, (Nat.digitChar k).toLower = Nat.digitChar k := by decide
  exact ⟨h, all d (List.mem_range.mpr h)⟩

theorem toNat_lt (h : ShowsDigit d c) : c.toNat < 128 := by
  have all : ∀ k ∈ List.range 16, (Nat.digitChar k).toNat < 128 := by decide
  rcases Nat.lt_or_ge c.toNat 128 with hlt | hge
  · exact hlt
  · -- A character beyond the letters has no other case, so it would be a lowercase digit.
    have hcase : c.toLower = c := by
      refine dif_neg fun hletter => ?_
      have hle : c.toNat ≤ 90 := hletter.2
      omega
    rw [← hcase, h.toLower]
    exact all d (List.mem_range.mpr h.lt)

theorem mem_digitTable (h : ShowsDigit d c) : (d, c) ∈ digitTable := by
  -- The codes are bounded, so all of them can be tried.
  have all : ∀ n ∈ List.range 128, ∀ k ∈ List.range 16,
      (Char.ofNat n).toLower = Nat.digitChar k → (k, Char.ofNat n) ∈ digitTable := by
    decide +kernel
  have hmem := all c.toNat (List.mem_range.mpr h.toNat_lt) d (List.mem_range.mpr h.lt)
  rw [Char.ofNat_toNat] at hmem
  exact hmem h.toLower

/-- A digit has its value in every radix beyond it. -/
theorem digit?_eq (h : ShowsDigit d c) {radix : Nat} (hd : d < radix) :
    digit? radix c.toNat = some d := by
  have all : ∀ x ∈ digitTable, digit? 16 x.2.toNat = some x.1 := by decide
  obtain ⟨hvalue, -⟩ := Option.filter_eq_some_iff.mp (all (d, c) h.mem_digitTable)
  exact Option.filter_eq_some_iff.mpr ⟨hvalue, decide_eq_true hd⟩

theorem digit?_asciiByte (h : ShowsDigit d c) {radix : Nat} (hd : d < radix) :
    digit? radix (asciiByte c).toNat = some d := by
  rw [toNat_asciiByte h.toNat_lt, h.digit?_eq hd]

theorem isBlank_eq (h : ShowsDigit d c) : isBlank c = false := by
  have all : ∀ x ∈ digitTable, isBlank x.2 = false := by decide
  exact all (d, c) h.mem_digitTable

/-- A digit is neither the underscore that separates digits nor the letter of a mark. -/
theorem asciiByte_notMem (h : ShowsDigit d c) : asciiByte c ∉ [95, 120, 88] := by
  have all : ∀ x ∈ digitTable, asciiByte x.2 ∉ [95, 120, 88] := by decide
  exact all (d, c) h.mem_digitTable

end ShowsDigit

/-! ### Rows of digits -/

/-- All characters are digits, with lowercase letters. -/
def Lowercase (cs : List Char) : Prop :=
  ∀ c ∈ cs, ∃ d, d < 16 ∧ c = Nat.digitChar d

/-- All characters are digits, with letters of either case. -/
def AllDigits (cs : List Char) : Prop :=
  ∀ c ∈ cs, ∃ d, ShowsDigit d c

theorem Lowercase.toLower_eq {cs : List Char} (h : Lowercase cs) : cs.map Char.toLower = cs := by
  refine (List.map_congr_left fun c hc => ?_).trans (List.map_id cs)
  obtain ⟨d, hd, rfl⟩ := h c hc
  exact (ShowsDigit.digitChar hd).toLower

/-- A row with other letters is still one of digits. -/
theorem Lowercase.allDigits {cs low : List Char} (h : Lowercase low)
    (hcs : cs.map Char.toLower = low) : AllDigits cs := by
  intro c hc
  have hmem : c.toLower ∈ low := hcs ▸ List.mem_map_of_mem hc
  obtain ⟨d, hd, hlower⟩ := h _ hmem
  exact ⟨d, hd, hlower⟩

/-- Digits behind a mark are a byte each. -/
theorem AllDigits.ofText_eq {cs : List Char} (h : AllDigits cs) (mark : String) :
    Bytes.ofText (mark ++ String.ofList cs) = Bytes.ofText mark ++ cs.map asciiByte := by
  have hascii : ∀ c ∈ cs, c.toNat < 128 := by
    intro c hc
    obtain ⟨d, hd⟩ := h c hc
    exact hd.toNat_lt
  rw [Bytes.ofText_append, Bytes.ofText_ofList_of_ascii hascii]

/-- There are no blanks in the marks that stand in front of digits. -/
theorem isBlank_of_mem_mark {mark : String} (hmark : mark ∈ ["0x", "0X", ""]) {c : Char}
    (hc : c ∈ mark.toList) : isBlank c = false := by
  have all : ∀ mark ∈ ["0x", "0X", ""], mark.toList.all (!isBlank ·) := by decide
  have hnot : (!isBlank c) = true := List.all_eq_true.mp (all mark hmark) c hc
  rwa [Bool.not_eq_true'] at hnot

theorem AllDigits.isBlank_eq {cs : List Char} (h : AllDigits cs) {mark : String}
    (hmark : mark ∈ ["0x", "0X", ""]) :
    ∀ c ∈ (mark ++ String.ofList cs).toList, isBlank c = false := by
  intro c hc
  rw [String.toList_append, String.toList_ofList, List.mem_append] at hc
  rcases hc with hc | hc
  · exact isBlank_of_mem_mark hmark hc
  · obtain ⟨d, hd⟩ := h c hc
    exact hd.isBlank_eq

/-! ### Numbers -/

theorem digits?_concat (radix : Nat) (cs : List Char) (c : Char) :
    digits? radix (cs ++ [c])
      = (digits? radix cs).bind fun n => (digit? radix c.toNat).map (n * radix + ·) := by
  simp [digits?, List.foldlM_append]

/-- A number is below the power of the radix that has as many places. -/
theorem digits?_lt {radix n : Nat} {cs : List Char} (h : digits? radix cs = some n) :
    n < Nat.pow radix cs.length := by
  induction cs using List.reverseRecOn generalizing n with
  | nil =>
    cases h
    exact Nat.one_pos
  | append_singleton cs c ih =>
    rw [digits?_concat, Option.bind_eq_some_iff] at h
    obtain ⟨high, hhigh, hlast⟩ := h
    obtain ⟨d, hd, rfl⟩ := Option.map_eq_some_iff.mp hlast
    have hlt := ih hhigh
    have hdigit := digit?_lt hd
    have hplace : high * radix + radix ≤ Nat.pow radix cs.length * radix := by
      rw [← Nat.succ_mul]
      exact Nat.mul_le_mul_right radix hlt
    have hmore : Nat.pow radix (cs ++ [c]).length = Nat.pow radix cs.length * radix := by
      rw [List.length_append]
      rfl
    rw [hmore]
    omega

/-- Whatever a number is read from consists of digits of the radix. -/
theorem exists_digit?_of_mem {radix n : Nat} {cs : List Char} (h : digits? radix cs = some n)
    {c : Char} (hc : c ∈ cs) : ∃ d, digit? radix c.toNat = some d := by
  induction cs using List.reverseRecOn generalizing n with
  | nil => cases hc
  | append_singleton cs c' ih =>
    rw [digits?_concat, Option.bind_eq_some_iff] at h
    obtain ⟨high, hhigh, hlast⟩ := h
    obtain ⟨d, hd, -⟩ := Option.map_eq_some_iff.mp hlast
    rcases List.mem_append.mp hc with hmem | hmem
    · exact ih hhigh hmem
    · rw [List.mem_singleton.mp hmem]
      exact ⟨d, hd⟩

/-- Of decimal digits there are ten. -/
theorem isDigit_of_digit? {c : Char} {d : Nat} (h : digit? 10 c.toNat = some d) :
    c.isDigit = true := by
  obtain ⟨hvalue, hlt⟩ := Option.filter_eq_some_iff.mp h
  have hten : d < 10 := by simpa using hlt
  have hrange : 48 ≤ c.toNat ∧ c.toNat ≤ 57 := by
    split at hvalue
    · assumption
    · -- The letters stand for ten and more.
      split at hvalue
      · cases hvalue
        omega
      · split at hvalue
        · cases hvalue
          omega
        · cases hvalue
  exact Char.isDigit_iff_toNat.mpr hrange

/-- The digits of a number are read as the number, whatever the case of letters is and with any
number of zeros before them. -/
theorem digits?_of_toLower {radix n zeros : Nat} {cs : List Char} (hradix : 1 < radix)
    (hle : radix ≤ 16) (h : cs.map Char.toLower = List.replicate zeros '0' ++ Nat.toDigits radix n) :
    digits? radix cs = some n := by
  induction n using Nat.strongRecOn generalizing cs with
  | ind n ih =>
    rcases Nat.lt_or_ge n radix with hlt | hge
    · -- In front of the only digit there are zeros, and these add nothing.
      rw [Nat.toDigits_of_lt_base hlt] at h
      obtain ⟨front, last, rfl, hfront, hlast⟩ := List.map_eq_append_iff.mp h
      obtain ⟨c, rfl, hc⟩ := List.map_eq_singleton_iff.mp hlast
      have hzeros : ∀ cs : List Char, (∀ c ∈ cs, ShowsDigit 0 c) → digits? radix cs = some 0 := by
        intro cs hcs
        induction cs using List.reverseRecOn with
        | nil => rfl
        | append_singleton cs c ih =>
          have hdigit : digit? radix c.toNat = some 0 := (hcs c (by simp)).digit?_eq (by omega)
          rw [digits?_concat, ih fun d hd => hcs d (by simp [hd]), hdigit]
          simp
      have hzero : digits? radix front = some 0 := by
        refine hzeros front fun c hc => ⟨by decide, ?_⟩
        have hmem : c.toLower ∈ front.map Char.toLower := List.mem_map_of_mem hc
        rw [hfront] at hmem
        exact List.eq_of_mem_replicate hmem
      have hdigit : ShowsDigit n c := ⟨by omega, hc⟩
      rw [digits?_concat, hzero, Option.bind_some, hdigit.digit?_eq hlt]
      simp
    · rw [Nat.toDigits_of_base_le hradix hge, ← List.append_assoc] at h
      obtain ⟨front, last, rfl, hfront, hlast⟩ := List.map_eq_append_iff.mp h
      obtain ⟨c, rfl, hc⟩ := List.map_eq_singleton_iff.mp hlast
      have hmod : n % radix < radix := Nat.mod_lt n (by omega)
      have hdigit : ShowsDigit (n % radix) c := ⟨by omega, hc⟩
      have hhigh : digits? radix front = some (n / radix) :=
        ih (n / radix) (Nat.div_lt_self (by omega) hradix) hfront
      rw [digits?_concat, hhigh, Option.bind_some, hdigit.digit?_eq hmod, Option.map_some,
        Nat.div_add_mod']

/-! ### Decimal digits -/

theorem decimalValue_eq_ofDigitChars (ds : List Char) :
    decimalValue ds = Nat.ofDigitChars 10 ds 0 := by
  have hstep : (fun (n : Nat) (d : Char) => n * 10 + (d.toNat - 48))
      = fun n d => 10 * n + (d.toNat - 48) := by
    funext n d
    rw [Nat.mul_comm]
  rw [decimalValue, hstep]
  rfl

theorem decimalValue_toDigits (n : Nat) : decimalValue (Nat.toDigits 10 n) = n := by
  rw [decimalValue_eq_ofDigitChars, Nat.ofDigitChars_ten_toDigits]

theorem isDigit_of_mem_toDigits {n : Nat} {c : Char} (h : c ∈ Nat.toDigits 10 n) :
    c.isDigit = true :=
  Nat.isDigit_of_mem_toDigits (by decide) (by decide) h

/-- A number other than zero does not start with a zero. -/
theorem exists_toDigits_eq_cons {n : Nat} (h : n ≠ 0) :
    ∃ c cs, Nat.toDigits 10 n = c :: cs ∧ c ≠ '0' := by
  induction n using Nat.strongRecOn with
  | ind n ih =>
    rcases Nat.lt_or_ge n 10 with hlt | hge
    · have all : ∀ k ∈ List.range 10, k ≠ 0 → Nat.digitChar k ≠ '0' := by decide
      exact ⟨_, [], Nat.toDigits_of_lt_base hlt, all n (List.mem_range.mpr hlt) h⟩
    · obtain ⟨c, cs, hhigh, hc⟩ := ih (n / 10) (by omega) (by omega)
      refine ⟨c, cs ++ [Nat.digitChar (n % 10)], ?_, hc⟩
      rw [Nat.toDigits_of_base_le (by decide) hge, hhigh, List.cons_append]

theorem digitChar_of_isDigit {c : Char} (h : c.isDigit = true) :
    c.toNat - 48 < 10 ∧ Nat.digitChar (c.toNat - 48) = c := by
  have hle : 48 ≤ c.toNat ∧ c.toNat ≤ 57 := Char.isDigit_iff_toNat.mp h
  have hlt : c.toNat - 48 < 10 := by omega
  refine ⟨hlt, Char.toNat_inj.mp ?_⟩
  rw [Nat.toNat_digitChar_of_lt_ten hlt]
  omega

/-- Digits that do not start with a zero in front of others are those of their value. -/
theorem toDigits_decimalValue {ds : List Char} (hne : ds ≠ []) (hdigits : ∀ d ∈ ds, d.isDigit = true)
    (hzero : ∀ rest, ds = '0' :: rest → rest = []) : Nat.toDigits 10 (decimalValue ds) = ds := by
  induction ds using List.reverseRecOn with
  | nil => exact absurd rfl hne
  | append_singleton ds d ih =>
    obtain ⟨hlt, hd⟩ := digitChar_of_isDigit (hdigits d (by simp))
    rw [decimalValue_append]
    rcases eq_or_ne ds [] with rfl | hds
    · show Nat.toDigits 10 (0 * 10 + (d.toNat - 48)) = [d]
      rw [Nat.zero_mul, Nat.zero_add, Nat.toDigits_of_lt_base hlt, hd]
    · have hfront : Nat.toDigits 10 (decimalValue ds) = ds := by
        refine ih hds (fun c hc => hdigits c (List.mem_append_left [d] hc)) fun rest hrest => ?_
        have hnil := hzero (rest ++ [d]) (by rw [hrest, List.cons_append])
        exact absurd hnil (List.append_ne_nil_of_right_ne_nil rest (List.cons_ne_nil d []))
      have hpos : 0 < decimalValue ds := by
        refine Nat.pos_of_ne_zero fun hvalue => ?_
        rw [hvalue, Nat.toDigits_zero] at hfront
        exact absurd (hzero [d] (by rw [← hfront, List.singleton_append])) (List.cons_ne_nil d [])
      calc Nat.toDigits 10 (decimalValue ds * 10 + (d.toNat - 48))
          = Nat.toDigits 10 (10 * decimalValue ds + (d.toNat - 48)) := by rw [Nat.mul_comm]
        _ = Nat.toDigits 10 (decimalValue ds) ++ Nat.toDigits 10 (d.toNat - 48) :=
            (Nat.toDigits_append_toDigits (by decide) hpos hlt).symm
        _ = ds ++ [d] := by rw [hfront, Nat.toDigits_of_lt_base hlt, hd]

end SafeOps.Text
