import SafeOps.Hex
import SafeOps.Proofs.Text.Digits

/-!
# `SafeOps.Proofs.Hex`: byte strings survive being written in digits

`Hex.decode` undoes `Hex.encode` on digits (`decode_encode`). It reads digits of either case, in
pairs, and nothing else (`decode_eq_some_iff`, `exists_decode_iff`). Here the same is said of the
texts that come from outside, which `Hex.read` takes apart byte by byte. `Spells` says which texts
show a byte string: the digits may be of either case and the mark may be left out. `read_of_spells`
reads back what is shown, also where bytes of a certain number are asked for, and `read_render`
is the case of the text the library writes itself.
-/

set_option autoImplicit false

namespace SafeOps.Hex

/-- A text shows a byte string: two digits of either case for each byte, with the mark in front
or without it. -/
def Spells (bs : Bytes) (text : String) : Prop :=
  ∃ mark ∈ ["0x", "0X", ""], ∃ cs : List Char,
    cs.map Char.toLower = encode bs ∧ text = mark ++ String.ofList cs

/-! ### Digits as bytes -/

theorem digit_eq_digitChar {n : Nat} (h : n < 16) : digit n = Nat.digitChar n := by
  have all : ∀ k ∈ List.range 16, digit k = Nat.digitChar k := by decide
  exact all n (List.mem_range.mpr h)

theorem length_encode (bs : Bytes) : (encode bs).length = 2 * bs.length := by
  induction bs with
  | nil => rfl
  | cons b bs ih =>
    show (digits b ++ encode bs).length = 2 * (b :: bs).length
    rw [List.length_append, ih, List.length_cons, digits, List.length_cons,
      List.length_singleton]
    omega

theorem exists_digit_of_mem_encode {bs : Bytes} {c : Char} (h : c ∈ encode bs) :
    ∃ d, d < 16 ∧ c = digit d := by
  obtain ⟨b, -, hc⟩ := List.mem_flatMap.mp h
  have hb := b.toNat_lt
  simp only [digits, List.mem_cons, List.not_mem_nil, or_false] at hc
  rcases hc with hc | hc
  · exact ⟨_, by omega, hc⟩
  · exact ⟨_, by omega, hc⟩

theorem lowercase_encode (bs : Bytes) : Text.Lowercase (encode bs) := by
  intro c hc
  obtain ⟨d, hd, rfl⟩ := exists_digit_of_mem_encode hc
  exact ⟨d, hd, digit_eq_digitChar hd⟩

/-- The text the library writes is one of those that show a byte string. -/
theorem spells_render (bs : Bytes) : Spells bs (render bs) :=
  ⟨"0x", List.mem_cons_self, encode bs, (lowercase_encode bs).toLower_eq, rfl⟩

/-! ### What is decoded -/

/-- The value of a character is the digit it shows, in either case. -/
theorem value?_eq_some_iff {c : Char} {d : Nat} :
    value? c.toNat = some d ↔ Text.ShowsDigit d c := by
  constructor
  · intro h
    -- Only codes of ASCII have a value, so all of them can be tried.
    have all : ∀ n ∈ List.range 128, ∀ k ∈ List.range 16,
        value? n = some k → (Char.ofNat n).toLower = Nat.digitChar k := by
      decide +kernel
    have hlt : d < 16 := Text.digit?_lt h
    have hcode : c.toNat < 128 := by
      obtain ⟨hvalue, -⟩ := Option.filter_eq_some_iff.mp h
      split at hvalue
      · omega
      · split at hvalue
        · omega
        · split at hvalue
          · omega
          · cases hvalue
    have hlower := all c.toNat (List.mem_range.mpr hcode) d (List.mem_range.mpr hlt) h
    rw [Char.ofNat_toNat] at hlower
    exact ⟨hlt, hlower⟩
  · intro h
    exact h.digit?_eq h.lt

theorem decode_of_toLower {bs : Bytes} {cs : List Char} (h : cs.map Char.toLower = encode bs) :
    decode cs = some bs := by
  induction bs generalizing cs with
  | nil =>
    rw [List.map_eq_nil_iff.mp h]
    rfl
  | cons b bs ih =>
    have hdigits : cs.map Char.toLower
        = digit (b.toNat / 16) :: digit (b.toNat % 16) :: encode bs := h
    obtain ⟨high, cs, rfl, hhigh, hcs⟩ := List.map_eq_cons_iff.mp hdigits
    obtain ⟨low, cs, rfl, hlow, hrest⟩ := List.map_eq_cons_iff.mp hcs
    have hb := b.toNat_lt
    have hvalue : ∀ {c : Char} {n : Nat}, n < 16 → c.toLower = digit n →
        value? c.toNat = some n := by
      intro c n hn hc
      exact value?_eq_some_iff.mpr ⟨hn, hc.trans (digit_eq_digitChar hn)⟩
    have hbyte : UInt8.ofNat (16 * (b.toNat / 16) + b.toNat % 16) = b := by
      rw [Nat.div_add_mod]
      exact UInt8.ofNat_toNat
    rw [decode, hvalue (by omega) hhigh, hvalue (by omega) hlow, ih hrest]
    exact congrArg (fun x => some (x :: bs)) hbyte

/-- The two digits of a byte put together from two digits are these, in lowercase. -/
theorem digits_ofNat {high low : Nat} (hhigh : high < 16) (hlow : low < 16) :
    digits (UInt8.ofNat (16 * high + low)) = [Nat.digitChar high, Nat.digitChar low] := by
  have hbyte : (UInt8.ofNat (16 * high + low)).toNat = 16 * high + low := by
    rw [UInt8.toNat_ofNat', Nat.mod_eq_of_lt (by omega)]
  have hdiv : (16 * high + low) / 16 = high := by omega
  have hmod : (16 * high + low) % 16 = low := by omega
  rw [digits, hbyte, hdiv, hmod, digit_eq_digitChar hhigh, digit_eq_digitChar hlow]

/-- Bytes are decoded from their digits in either case, and from nothing else. -/
theorem decode_eq_some_iff {cs : List Char} {bs : Bytes} :
    decode cs = some bs ↔ cs.map Char.toLower = encode bs := by
  refine ⟨fun h => ?_, decode_of_toLower⟩
  -- The recursion takes two characters at a time, and so does the induction.
  induction cs using decode.induct generalizing bs with
  | case1 =>
    cases h
    rfl
  | case2 c => cases h
  | case3 high low rest ih =>
    simp only [decode, Option.bind_eq_bind, Option.bind_eq_some_iff, Option.pure_def,
      Option.some.injEq] at h
    obtain ⟨x, hx, y, hy, bs', hrest, rfl⟩ := h
    have hhigh := value?_eq_some_iff.mp hx
    have hlow := value?_eq_some_iff.mp hy
    show high.toLower :: low.toLower :: rest.map Char.toLower
      = digits (UInt8.ofNat (16 * x + y)) ++ encode bs'
    rw [digits_ofNat hhigh.lt hlow.lt, hhigh.toLower, hlow.toLower, ih hrest]
    rfl

/-- A text is decoded if it is an even number of digits. -/
theorem exists_decode_iff {cs : List Char} :
    (∃ bs, decode cs = some bs) ↔ cs.length % 2 = 0 ∧ Text.AllDigits cs := by
  constructor
  · rintro ⟨bs, h⟩
    have hdigits := decode_eq_some_iff.mp h
    refine ⟨?_, (lowercase_encode bs).allDigits hdigits⟩
    have hlength := congrArg List.length hdigits
    rw [List.length_map, length_encode] at hlength
    omega
  · rintro ⟨heven, hall⟩
    induction cs using decode.induct with
    | case1 => exact ⟨[], rfl⟩
    | case2 c => simp at heven
    | case3 high low rest ih =>
      obtain ⟨x, hx⟩ := hall high List.mem_cons_self
      obtain ⟨y, hy⟩ := hall low (List.mem_cons_of_mem high List.mem_cons_self)
      have hrest : rest.length % 2 = 0 := by
        simp only [List.length_cons] at heven
        omega
      obtain ⟨bs, hbs⟩ := ih hrest fun c hc =>
        hall c (List.mem_cons_of_mem high (List.mem_cons_of_mem low hc))
      refine ⟨UInt8.ofNat (16 * x + y) :: bs, ?_⟩
      rw [decode, value?_eq_some_iff.mpr hx, value?_eq_some_iff.mpr hy, hbs]
      rfl

/-! ### Reading what was written -/

section

variable {bs : Bytes} {cs : List Char}

theorem value?_of_toLower {c : Char} {n : Nat} (hn : n < 16) (h : c.toLower = digit n) :
    value? (asciiByte c).toNat = some n := by
  have hshows : Text.ShowsDigit n c := ⟨hn, h.trans (digit_eq_digitChar hn)⟩
  exact hshows.digit?_asciiByte hn

/-- Wherever the digits of bytes stand, they are read as those bytes. -/
theorem readDigits_of_toLower (h : cs.map Char.toLower = encode bs) (position : Nat) :
    readDigits position (cs.map asciiByte) = .ok bs := by
  induction bs generalizing cs position with
  | nil =>
    rw [List.map_eq_nil_iff.mp h]
    rfl
  | cons b bs ih =>
    -- The two digits of the first byte stand in front, whatever their case.
    have hdigits : cs.map Char.toLower
        = digit (b.toNat / 16) :: digit (b.toNat % 16) :: encode bs := h
    obtain ⟨high, cs, rfl, hhigh, hcs⟩ := List.map_eq_cons_iff.mp hdigits
    obtain ⟨low, cs, rfl, hlow, hrest⟩ := List.map_eq_cons_iff.mp hcs
    have hb := b.toNat_lt
    have hbyte : UInt8.ofNat (16 * (b.toNat / 16) + b.toNat % 16) = b := by
      rw [Nat.div_add_mod]
      exact UInt8.ofNat_toNat
    rw [List.map_cons, List.map_cons, readDigits, value?_of_toLower (by omega) hhigh,
      value?_of_toLower (by omega) hlow, ih hrest]
    exact congrArg (fun x => Except.ok (x :: bs)) hbyte

/-- The mark is taken off, and digits without one are left as they are. -/
theorem stripMark_append (h : cs.map Char.toLower = encode bs) {mark : String}
    (hmark : mark ∈ ["0x", "0X", ""]) :
    stripMark (Bytes.ofText mark ++ cs.map asciiByte) = cs.map asciiByte := by
  have hletter : ∀ b ∈ cs.map asciiByte, b ≠ 120 ∧ b ≠ 88 := by
    intro b hb
    obtain ⟨c, hc, rfl⟩ := List.mem_map.mp hb
    obtain ⟨d, hd⟩ := (lowercase_encode bs).allDigits h c hc
    have hne := hd.asciiByte_notMem
    simp only [List.mem_cons, List.not_mem_nil, or_false, not_or] at hne
    exact hne.2
  simp only [List.mem_cons, List.not_mem_nil, or_false] at hmark
  rcases hmark with rfl | rfl | rfl
  · rfl
  · rfl
  · -- Without a mark the second byte is that of a digit, so it is no letter of a mark.
    show stripMark (cs.map asciiByte) = cs.map asciiByte
    unfold stripMark
    split
    · rename_i heq
      rw [heq] at hletter
      exact absurd rfl (hletter 120 (List.mem_cons_of_mem 48 List.mem_cons_self)).1
    · rename_i heq
      rw [heq] at hletter
      exact absurd rfl (hletter 88 (List.mem_cons_of_mem 48 List.mem_cons_self)).2
    · rfl

end

theorem isBlank_of_spells {bs : Bytes} {text : String} (h : Spells bs text) :
    ∀ c ∈ text.toList, Text.isBlank c = false := by
  obtain ⟨mark, hmark, cs, hcs, rfl⟩ := h
  exact ((lowercase_encode bs).allDigits hcs).isBlank_eq hmark

/-- Bytes are read from every text that shows them, also if just so many of them are asked for. -/
theorem read_of_spells {bs : Bytes} {text : String} {length? : Option Nat} (h : Spells bs text)
    (hlength? : ∀ n ∈ length?, bs.length = n) : read length? text = .ok bs := by
  obtain ⟨mark, hmark, cs, hcs, rfl⟩ := h
  have htext := ((lowercase_encode bs).allDigits hcs).ofText_eq mark
  have hlength : (cs.map asciiByte).length = 2 * bs.length := by
    rw [List.length_map, ← length_encode, ← hcs, List.length_map]
  -- The mark is part of the parity, but not of the length that is asked for.
  have hmarks : ∀ mark ∈ ["0x", "0X", ""], (Bytes.ofText mark).length % 2 = 0 := by decide
  have heven : (Bytes.ofText mark ++ cs.map asciiByte).length % 2 ≠ 1 := by
    have hzero := hmarks mark hmark
    rw [List.length_append, hlength]
    omega
  unfold read
  simp only [htext, heven, if_false, stripMark_append hcs hmark]
  cases length? with
  | none => exact readDigits_of_toLower hcs 0
  | some n =>
    rw [← hlength? n rfl]
    exact (if_pos hlength).trans (readDigits_of_toLower hcs 0)

/-- Rendered bytes are read back, also if just so many of them are asked for. -/
theorem read_render {bs : Bytes} {length? : Option Nat} (h : ∀ n ∈ length?, bs.length = n) :
    read length? (render bs) = .ok bs :=
  read_of_spells (spells_render bs) h

end SafeOps.Hex
