import SafeOps.Proofs.Failable
import SafeOps.Text.Utf8

/-!
# `SafeOps.Proofs.Text.Ascii`: texts with a byte for every character

Digits and marks have codes below 128, and such a character is one byte of UTF-8. The readers
of numbers and of byte strings work on the bytes of a text; `ofText_ofList_of_ascii` says what
these are when the text was written with such characters, and `decode?_map_asciiByte` that the
characters are found again in them.
-/

set_option autoImplicit false

namespace SafeOps

/-- The byte of a character with a code below 128. -/
def asciiByte (c : Char) : UInt8 :=
  UInt8.ofNat c.toNat

/-- There are few characters of ASCII, so all of them can be tried. -/
theorem forall_ascii {P : Char → Prop} (h : ∀ n ∈ List.range 128, P (Char.ofNat n)) {c : Char}
    (hc : c.toNat < 128) : P c := by
  have hcode := h c.toNat (List.mem_range.mpr hc)
  rwa [Char.ofNat_toNat] at hcode

/-- So can those of a list. -/
theorem forall_mem_of_all {P : Char → Prop} [DecidablePred P] {cs : List Char}
    (h : cs.all (fun c => P c) = true) : ∀ c ∈ cs, P c :=
  fun c hc => of_decide_eq_true (List.all_eq_true.mp h c hc)

theorem toNat_asciiByte {c : Char} (h : c.toNat < 128) : (asciiByte c).toNat = c.toNat :=
  Nat.mod_eq_of_lt (Nat.lt_trans h (by decide))

theorem utf8EncodeChar_of_ascii {c : Char} (h : c.toNat < 128) :
    String.utf8EncodeChar c = [asciiByte c] := by
  have hle : c.val.toNat ≤ 0x7f := Nat.le_of_lt_succ h
  rw [String.utf8EncodeChar]
  simp only [hle, if_true]
  rfl

namespace Bytes

theorem ofText_append (s t : String) : ofText (s ++ t) = ofText s ++ ofText t := by
  simp [ofText]

/-- The bytes of a text whose characters all have codes below 128. -/
theorem ofText_ofList_of_ascii {cs : List Char} (h : ∀ c ∈ cs, c.toNat < 128) :
    ofText (String.ofList cs) = cs.map asciiByte := by
  rw [ofText, String.toList_ofList]
  induction cs with
  | nil => rfl
  | cons c cs ih =>
    rw [List.flatMap_cons, List.map_cons, utf8EncodeChar_of_ascii (h c List.mem_cons_self),
      ih fun d hd => h d (List.mem_cons_of_mem c hd)]
    rfl

end Bytes

namespace Text.Utf8

theorem step_asciiByte {c : Char} (h : c.toNat < 128) (rest : Bytes) :
    step (asciiByte c) rest = .char c 1 := by
  have hbyte : asciiByte c < 0x80 := by
    rw [UInt8.lt_iff_toNat_lt, toNat_asciiByte h]
    exact h
  unfold step
  rw [if_pos hbyte, toNat_asciiByte h, Char.ofNat_toNat]

theorem decode?_map_asciiByte {cs : List Char} (h : ∀ c ∈ cs, c.toNat < 128) :
    decode? (cs.map asciiByte) = some cs := by
  induction cs with
  | nil => simp [decode?, steps]
  | cons c cs ih =>
    have hrest := ih fun d hd => h d (List.mem_cons_of_mem c hd)
    rw [decode?] at hrest
    rw [decode?, List.map_cons, steps, step_asciiByte (h c List.mem_cons_self)]
    show List.mapM _ (Step.char c 1 :: steps (cs.map asciiByte)) = _
    exact mapM_cons_eq_some_iff.mpr ⟨c, cs, rfl, hrest, rfl⟩

end Text.Utf8

end SafeOps
