import SafeOps.Proofs.Failable
import SafeOps.Proofs.Text.Blank
import SafeOps.Proofs.Text.Digits
import SafeOps.Proofs.Text.Split
import SafeOps.Version

/-!
# `SafeOps.Proofs.Version.Text`: which texts are read as which version

A version has one strict text, and the strict reader takes no other one (`readChars_eq_ok_iff`).
The proof follows the reader: for each of its steps there is a lemma that says what the step takes
off the front of a text and where it stops. Numbers stop at the first character that is no digit,
identifiers at the first one that is neither theirs nor a dot.

The loose reader adds `.0` to a text with exactly one dot. Dots also stand between identifiers, so
it takes an argument that no strict text is changed by this: the three numbers alone have two dots
between them (`two_le_count_text`). A text of two numbers has one, and becomes a strict text
(`text_release_zero`). What is read is what blanks and letters `v` in front leave of a text
(`exists_padded_bare`), and that is a strict text or becomes one (`readLoose_eq_ok_iff`).
-/

set_option autoImplicit false

namespace SafeOps.Version

open Text (Ends ends_nil ends_cons_iff Padded isBlank)

/-! ### Strict texts -/

/-- What a text has to be for an identifier. -/
structure IsIdentifier (part : Part) (s : String) : Prop where
  ne_nil : s.toList ≠ []
  chars : ∀ c ∈ s.toList, isIdentifierChar c = true
  /-- A number has no zero to leave out in front, unless it is build metadata. -/
  canonical : part = .pre → (∀ c ∈ s.toList, c.isDigit = true) →
    ∀ rest, s.toList = '0' :: rest → rest = []

/-- The identifiers of a version are some. The numbers need no condition: all of them fit. -/
structure Proper (v : Version) : Prop where
  pre : ∀ s ∈ v.pre, IsIdentifier .pre s
  build : ∀ s ∈ v.build, IsIdentifier .build s

theorem proper_release (major minor patch : BitVec 64) : (release major minor patch).Proper :=
  ⟨nofun, nofun⟩

/-- Identifiers behind their mark; nothing if there are none. -/
def marked (mark : Char) (identifiers : List String) : List Char :=
  if identifiers.isEmpty then [] else mark :: List.intercalate ['.'] (identifiers.map String.toList)

theorem marked_nil (mark : Char) : marked mark [] = [] :=
  rfl

theorem marked_cons (mark : Char) (s : String) (rest : List String) :
    marked mark (s :: rest) = mark :: List.intercalate ['.'] ((s :: rest).map String.toList) :=
  rfl

theorem toList_text (v : Version) :
    v.text.toList = Nat.toDigits 10 v.major.toNat ++ '.' :: (Nat.toDigits 10 v.minor.toNat
      ++ '.' :: (Nat.toDigits 10 v.patch.toNat ++ (marked '-' v.pre ++ marked '+' v.build))) := by
  have hmarked : ∀ (mark : String) (c : Char) (ids : List String), mark.toList = [c] →
      (if ids.isEmpty then "" else mark ++ dotted ids).toList = marked c ids := by
    intro mark c ids hmark
    cases ids with
    | nil => rfl
    | cons s rest =>
      show (mark ++ dotted (s :: rest)).toList = marked c (s :: rest)
      rw [String.toList_append, hmark, dotted, String.toList_intercalate, marked_cons]
      rfl
  simp only [text, String.toList_append, hmarked "-" '-' v.pre rfl, hmarked "+" '+' v.build rfl,
    Nat.toString_eq_repr, Nat.toList_repr, List.append_assoc]
  rfl

/-! ### The steps of the reader -/

theorem hasLeadingZero_eq_false_iff {cs : List Char} :
    hasLeadingZero cs = false ↔ ∀ rest, cs = '0' :: rest → rest = [] := by
  constructor
  · rintro h rest rfl
    cases rest with
    | nil => rfl
    | cons c rest => exact absurd h (by simp [hasLeadingZero])
  · intro h
    unfold hasLeadingZero
    split
    · next c rest => exact absurd (h (c :: rest) rfl) (List.cons_ne_nil c rest)
    · rfl

theorem hasLeadingZero_toDigits (n : Nat) : hasLeadingZero (Nat.toDigits 10 n) = false := by
  rcases eq_or_ne n 0 with rfl | hn
  · rfl
  · obtain ⟨c, cs, hdigits, hc⟩ := Text.exists_toDigits_eq_cons hn
    refine hasLeadingZero_eq_false_iff.mpr fun rest hrest => ?_
    rw [hdigits] at hrest
    exact absurd (List.cons.inj hrest).1 hc

/-- A number is read from its digits, up to the first character that is none. -/
theorem readNumber_eq_ok_iff {part : Part} {cs rest : List Char} {n : BitVec 64} :
    readNumber part cs = .ok (n, rest) ↔
      cs = Nat.toDigits 10 n.toNat ++ rest ∧ Ends Char.isDigit rest := by
  constructor
  · intro h
    simp only [readNumber] at h
    split at h
    · cases h
    · cases h
    · next d ds hds =>
      split at h
      · cases h
      · next hzero =>
        split at h
        · cases h
        · next hlt =>
          -- Without a zero in front there is one row of digits for the value, so it was this one.
          cases h
          obtain ⟨hcs, hdigits, hrest⟩ := Text.takeWhile_dropWhile_iff.mp ⟨hds, rfl⟩
          have hvalue : (BitVec.ofNat 64 (Text.decimalValue (d :: ds))).toNat
              = Text.decimalValue (d :: ds) := by
            rw [hds] at hlt
            exact Nat.mod_eq_of_lt (Nat.lt_of_not_le hlt)
          rw [hds, Bool.not_eq_true] at hzero
          rw [hds, hvalue, Text.toDigits_decimalValue (List.cons_ne_nil d ds) hdigits
            (hasLeadingZero_eq_false_iff.mp hzero)]
          exact ⟨hcs, hrest⟩
  · rintro ⟨hcs, hrest⟩
    obtain ⟨hdigits, hdrop⟩ := Text.takeWhile_dropWhile_iff.mpr
      ⟨hcs, fun c hc => Text.isDigit_of_mem_toDigits hc, hrest⟩
    have hfits : ¬limit 64 ≤ n.toNat := Nat.not_le_of_lt n.isLt
    simp only [readNumber, hdigits, hdrop]
    split
    · next hnil => exact absurd hnil Nat.toDigits_ne_nil
    · next hnil => exact absurd hnil Nat.toDigits_ne_nil
    · rw [hasLeadingZero_toDigits, Text.decimalValue_toDigits, if_neg Bool.false_ne_true,
        if_neg hfits, BitVec.ofNat_toNat, BitVec.setWidth_eq]

theorem readDot_eq_ok_iff {part : Part} {cs rest : List Char} :
    readDot part cs = .ok rest ↔ cs = '.' :: rest := by
  constructor
  · intro h
    unfold readDot at h
    split at h
    · cases h
      rfl
    · cases h
    · cases h
  · rintro rfl
    rfl

/-- An identifier is read from its characters. -/
theorem readSegment_eq_ok_iff {part : Part} {cs : List Char} {s : String}
    (hchars : ∀ c ∈ cs, isIdentifierChar c = true) :
    readSegment part cs = .ok s ↔ cs = s.toList ∧ IsIdentifier part s := by
  constructor
  · intro h
    unfold readSegment at h
    split at h
    · cases h
    · next hne =>
      split at h
      · cases h
      · next hzero =>
        cases h
        refine ⟨String.toList_ofList.symm, ?_⟩
        constructor <;> rw [String.toList_ofList]
        · rwa [List.isEmpty_iff] at hne
        · exact hchars
        · intro hpart hdigits
          refine hasLeadingZero_eq_false_iff.mp (Bool.eq_false_iff.mpr fun hleading => ?_)
          exact hzero ⟨hpart, List.all_eq_true.mpr hdigits, hleading⟩
  · rintro ⟨rfl, hs⟩
    have hne : ¬s.toList.isEmpty = true := by
      rw [List.isEmpty_iff]
      exact hs.ne_nil
    have hzero : ¬(part = .pre ∧ s.toList.all Char.isDigit ∧ hasLeadingZero s.toList) := by
      rintro ⟨hpart, hdigits, hleading⟩
      have hfalse := hasLeadingZero_eq_false_iff.mpr
        (hs.canonical hpart (List.all_eq_true.mp hdigits))
      rw [hleading] at hfalse
      cases hfalse
    rw [readSegment, if_neg hne, if_neg hzero, String.ofList_toList]

/-- A character of identifiers, or a dot between them. -/
def belongs (c : Char) : Bool :=
  isIdentifierChar c || c == '.'

theorem belongs_of_isIdentifierChar {c : Char} (h : isIdentifierChar c = true) :
    belongs c = true := by
  rw [belongs, h, Bool.true_or]

theorem isIdentifierChar_of_belongs {c : Char} (h : belongs c = true) (hdot : c ≠ '.') :
    isIdentifierChar c = true := by
  rw [belongs, Bool.or_eq_true] at h
  rcases h with h | h
  · exact h
  · exact absurd (eq_of_beq h) hdot

/-- A dot is no character of an identifier, so identifiers are pieces between dots. -/
theorem dot_not_mem {part : Part} {s : String} (h : IsIdentifier part s) : '.' ∉ s.toList :=
  fun hmem => absurd (h.chars '.' hmem) (by decide)

theorem belongs_of_mem_intercalate {part : Part} {ids : List String}
    (h : ∀ s ∈ ids, IsIdentifier part s) {c : Char}
    (hc : c ∈ List.intercalate ['.'] (ids.map String.toList)) : belongs c = true := by
  rcases Text.mem_intercalate hc with rfl | ⟨piece, hpiece, hmem⟩
  · rfl
  · obtain ⟨s, hs, rfl⟩ := List.mem_map.mp hpiece
    exact belongs_of_isIdentifierChar ((h s hs).chars c hmem)

/-- The pieces of a text are identifiers one by one. -/
theorem forall₂_readSegment_iff {part : Part} {ids : List String} {pieces : List (List Char)}
    (hchars : ∀ piece ∈ pieces, ∀ c ∈ piece, isIdentifierChar c = true) :
    List.Forall₂ (fun s piece => readSegment part piece = .ok s) ids pieces ↔
      pieces = ids.map String.toList ∧ ∀ s ∈ ids, IsIdentifier part s := by
  induction pieces generalizing ids with
  | nil =>
    rw [List.forall₂_nil_right_iff]
    constructor
    · rintro rfl
      exact ⟨rfl, nofun⟩
    · rintro ⟨hnil, -⟩
      exact List.map_eq_nil_iff.mp hnil.symm
  | cons piece pieces ih =>
    have hfirst := hchars piece List.mem_cons_self
    have hrest := fun p hp => hchars p (List.mem_cons_of_mem piece hp)
    cases ids with
    | nil =>
      constructor
      · exact nofun
      · rintro ⟨hnil, -⟩
        cases hnil
    | cons s ids =>
      rw [List.forall₂_cons, readSegment_eq_ok_iff hfirst, ih hrest, List.map_cons,
        List.cons.injEq, List.forall_mem_cons]
      exact and_and_and_comm

/-- Identifiers are read with the dots between them, up to the first other character. -/
theorem readSegments_eq_ok_iff {part : Part} {cs rest : List Char} {ids : List String} :
    readSegments part cs = .ok (ids, rest) ↔
      (cs = List.intercalate ['.'] (ids.map String.toList) ++ rest ∧ Ends belongs rest)
        ∧ ids ≠ [] ∧ ∀ s ∈ ids, IsIdentifier part s := by
  have hread : readSegments part cs = .ok (ids, rest) ↔
      (Text.splitOn '.' (cs.takeWhile belongs)).mapM (readSegment part) = .ok ids
        ∧ cs.dropWhile belongs = rest := by
    show ((Text.splitOn '.' (cs.takeWhile belongs)).mapM (readSegment part)
      >>= fun segments => pure (segments, cs.dropWhile belongs)) = .ok (ids, rest) ↔ _
    rw [bind_eq_ok_iff]
    constructor
    · rintro ⟨segments, hsegments, hpure⟩
      obtain ⟨rfl, rfl⟩ := Prod.mk.inj (pure_eq_ok_iff.mp hpure)
      exact ⟨hsegments, rfl⟩
    · rintro ⟨hsegments, rfl⟩
      exact ⟨ids, hsegments, rfl⟩
  rw [hread, mapM_eq_ok_iff]
  have hchars : ∀ piece ∈ Text.splitOn '.' (cs.takeWhile belongs), ∀ c ∈ piece,
      isIdentifierChar c = true := by
    -- Dots belong to the row as well, but a piece has none.
    intro piece hpiece c hc
    have hbelongs : belongs c = true :=
      List.all_eq_true.mp List.all_takeWhile c (Text.mem_of_mem_splitOn hpiece hc)
    refine isIdentifierChar_of_belongs hbelongs ?_
    rintro rfl
    exact Text.not_mem_of_mem_splitOn hpiece hc
  rw [forall₂_readSegment_iff hchars]
  constructor
  · rintro ⟨⟨hpieces, hids⟩, hrest⟩
    have hfront : cs.takeWhile belongs = List.intercalate ['.'] (ids.map String.toList) := by
      rw [← hpieces, Text.intercalate_splitOn]
    obtain ⟨hcs, -, hends⟩ := Text.takeWhile_dropWhile_iff.mp ⟨hfront, hrest⟩
    refine ⟨⟨hcs, hends⟩, ?_, hids⟩
    rintro rfl
    exact Text.splitOn_ne_nil _ _ hpieces
  · rintro ⟨⟨hcs, hends⟩, hne, hids⟩
    obtain ⟨hfront, hrest⟩ := Text.takeWhile_dropWhile_iff.mpr
      ⟨hcs, fun c hc => belongs_of_mem_intercalate hids hc, hends⟩
    refine ⟨⟨?_, hids⟩, hrest⟩
    rw [hfront]
    refine Text.splitOn_intercalate (by simpa using hne) fun piece hpiece => ?_
    obtain ⟨s, hs, rfl⟩ := List.mem_map.mp hpiece
    exact dot_not_mem (hids s hs)

/-- Identifiers are read behind their mark. Where there is no mark, there are none. -/
theorem readMarked_eq_ok_iff {mark : Char} {part : Part} {cs rest : List Char} {ids : List String} :
    readMarked mark part cs = .ok (ids, rest) ↔
      cs = marked mark ids ++ rest ∧ (∀ s ∈ ids, IsIdentifier part s)
        ∧ Ends (if ids = [] then (· == mark) else belongs) rest := by
  cases ids with
  | nil =>
    rw [marked_nil, List.nil_append, if_pos rfl]
    cases cs with
    | nil =>
      show Except.ok ([], []) = _ ↔ _
      constructor
      · intro h
        cases h
        exact ⟨rfl, nofun, ends_nil _⟩
      · rintro ⟨rfl, -, -⟩
        rfl
    | cons c cs =>
      rw [readMarked]
      split
      · next hc =>
        -- Behind a mark there is at least one identifier.
        constructor
        · intro h
          exact absurd rfl (readSegments_eq_ok_iff.mp h).2.1
        · rintro ⟨rfl, -, hends⟩
          rw [ends_cons_iff, hc] at hends
          simp at hends
      · next hc =>
        constructor
        · intro h
          cases h
          exact ⟨rfl, nofun, ends_cons_iff.mpr (beq_eq_false_iff_ne.mpr hc)⟩
        · rintro ⟨rfl, -, -⟩
          rfl
  | cons s ids =>
    rw [marked_cons, if_neg (List.cons_ne_nil s ids)]
    cases cs with
    | nil => exact ⟨nofun, fun h => nomatch h.1⟩
    | cons c cs =>
      rw [readMarked, List.cons_append, List.cons.injEq]
      split
      · next hc =>
        rw [readSegments_eq_ok_iff]
        constructor
        · rintro ⟨⟨hcs, hends⟩, -, hids⟩
          exact ⟨⟨hc, hcs⟩, hids, hends⟩
        · rintro ⟨⟨-, hcs⟩, hids, hends⟩
          exact ⟨⟨hcs, hends⟩, List.cons_ne_nil s ids, hids⟩
      · next hc => exact ⟨nofun, fun h => absurd h.1.1 hc⟩

/-- A mark stands where the identifiers in front of it, or the numbers, have ended. -/
theorem ends_marked {p : Char → Bool} {mark : Char} {rest : List Char} (h : p mark = false)
    (hrest : Ends p rest) (ids : List String) : Ends p (marked mark ids ++ rest) := by
  cases ids with
  | nil => exact hrest
  | cons s ids => exact ends_cons_iff.mpr h

/-- The strict reader takes the text of a version, and nothing else. -/
theorem readChars_eq_ok_iff {cs : List Char} {v : Version} :
    readChars cs = .ok v ↔ v.Proper ∧ cs = v.text.toList := by
  constructor
  · intro h
    rw [readChars] at h
    split at h
    · cases h
    · obtain ⟨⟨major, afterMajor⟩, hmajor, h⟩ := bind_eq_ok_iff.mp h
      obtain ⟨fromMinor, hdotMajor, h⟩ := bind_eq_ok_iff.mp h
      obtain ⟨⟨minor, afterMinor⟩, hminor, h⟩ := bind_eq_ok_iff.mp h
      obtain ⟨fromPatch, hdotMinor, h⟩ := bind_eq_ok_iff.mp h
      obtain ⟨⟨patch, afterPatch⟩, hpatch, h⟩ := bind_eq_ok_iff.mp h
      obtain ⟨⟨pre, afterPre⟩, hpre, h⟩ := bind_eq_ok_iff.mp h
      obtain ⟨⟨build, afterBuild⟩, hbuild, h⟩ := bind_eq_ok_iff.mp h
      cases afterBuild with
      | cons c rest => cases h
      | nil =>
        obtain rfl : ⟨major, minor, patch, pre, build⟩ = v := Except.ok.inj h
        obtain ⟨hfront, -⟩ := readNumber_eq_ok_iff.mp hmajor
        obtain ⟨hmiddle, -⟩ := readNumber_eq_ok_iff.mp hminor
        obtain ⟨hlast, -⟩ := readNumber_eq_ok_iff.mp hpatch
        obtain ⟨hmarkedPre, hidsPre, -⟩ := readMarked_eq_ok_iff.mp hpre
        obtain ⟨hmarkedBuild, hidsBuild, -⟩ := readMarked_eq_ok_iff.mp hbuild
        refine ⟨⟨hidsPre, hidsBuild⟩, ?_⟩
        rw [hfront, readDot_eq_ok_iff.mp hdotMajor, hmiddle, readDot_eq_ok_iff.mp hdotMinor, hlast,
          hmarkedPre, hmarkedBuild, List.append_nil, toList_text]
  · rintro ⟨⟨hidsPre, hidsBuild⟩, rfl⟩
    have hends : ∀ p : Char → Bool, p '+' = false → Ends p (marked '+' v.build) := by
      intro p hp
      rw [← List.append_nil (marked '+' v.build)]
      exact ends_marked hp (ends_nil p) v.build
    have hne : ¬v.text.toList.isEmpty = true := by
      rw [toList_text, List.isEmpty_iff]
      exact List.append_ne_nil_of_left_ne_nil Nat.toDigits_ne_nil _
    rw [readChars, if_neg hne]
    -- Each part ends where the next one starts, with a dot or a mark.
    refine bind_eq_ok_iff.mpr
      ⟨(v.major, _), readNumber_eq_ok_iff.mpr ⟨toList_text v, ends_cons_iff.mpr rfl⟩, ?_⟩
    refine bind_eq_ok_iff.mpr ⟨_, readDot_eq_ok_iff.mpr rfl, ?_⟩
    refine bind_eq_ok_iff.mpr
      ⟨(v.minor, _), readNumber_eq_ok_iff.mpr ⟨rfl, ends_cons_iff.mpr rfl⟩, ?_⟩
    refine bind_eq_ok_iff.mpr ⟨_, readDot_eq_ok_iff.mpr rfl, ?_⟩
    refine bind_eq_ok_iff.mpr ⟨(v.patch, _),
      readNumber_eq_ok_iff.mpr ⟨rfl, ends_marked rfl (hends _ rfl) v.pre⟩, ?_⟩
    refine bind_eq_ok_iff.mpr
      ⟨(v.pre, _), readMarked_eq_ok_iff.mpr ⟨rfl, hidsPre, ?_⟩, ?_⟩
    · split
      · exact hends _ rfl
      · exact hends _ rfl
    · exact bind_eq_ok_iff.mpr ⟨(v.build, []),
        readMarked_eq_ok_iff.mpr ⟨(List.append_nil _).symm, hidsBuild, ends_nil _⟩, rfl⟩

theorem read_eq_ok_iff {s : String} {v : Version} : read s = .ok v ↔ v.Proper ∧ s = v.text := by
  rw [read, readChars_eq_ok_iff, String.toList_inj]

/-! ### Dots -/

/-- The text of two numbers. -/
def shortText (major minor : BitVec 64) : String :=
  toString major.toNat ++ "." ++ toString minor.toNat

theorem toList_shortText (major minor : BitVec 64) : (shortText major minor).toList
    = Nat.toDigits 10 major.toNat ++ '.' :: Nat.toDigits 10 minor.toNat := by
  simp only [shortText, String.toList_append, Nat.toString_eq_repr, Nat.toList_repr,
    List.append_assoc]
  rfl

theorem count_dot_toDigits (n : Nat) : (Nat.toDigits 10 n).count '.' = 0 :=
  List.count_eq_zero.mpr fun hmem => absurd (Text.isDigit_of_mem_toDigits hmem) (by decide)

/-- There are two dots between the numbers, and others may follow. -/
theorem two_le_count_text (v : Version) : 2 ≤ v.text.toList.count '.' := by
  rw [toList_text, List.count_append, List.count_cons_self, List.count_append,
    List.count_cons_self]
  omega

theorem count_shortText (major minor : BitVec 64) :
    (shortText major minor).toList.count '.' = 1 := by
  rw [toList_shortText, List.count_append, List.count_cons_self, count_dot_toDigits,
    count_dot_toDigits]

/-- Two numbers and `.0` are the text of a version. -/
theorem text_release_zero (major minor : BitVec 64) :
    (release major minor 0).text = shortText major minor ++ ".0" := by
  have hpatch : Nat.toDigits 10 (release major minor 0).patch.toNat = ['0'] := Nat.toDigits_zero 10
  rw [← String.toList_inj, toList_text, String.toList_append, toList_shortText, hpatch,
    List.append_assoc, List.cons_append]
  rfl

/-- What is completed to the text of a version is this text already, or has one dot. -/
theorem complete_eq_text_iff {cs : List Char} {v : Version} :
    complete cs = v.text.toList ↔
      cs = v.text.toList ∨ cs.count '.' = 1 ∧ cs ++ ['.', '0'] = v.text.toList := by
  have htwo := two_le_count_text v
  unfold complete
  split
  · next hone =>
    constructor
    · intro h
      exact Or.inr ⟨hone, h⟩
    · rintro (rfl | ⟨-, h⟩)
      · -- A text that has one dot is no strict text yet.
        omega
      · exact h
  · next hmany =>
    constructor
    · exact Or.inl
    · rintro (h | ⟨hone, -⟩)
      · exact h
      · exact absurd hone hmany

/-! ### Blanks and marks in front -/

theorem belongs_of_isDigit {c : Char} (h : c.isDigit = true) : belongs c = true := by
  refine belongs_of_isIdentifierChar ?_
  rw [isIdentifierChar, Char.isAlphanum, h, Bool.or_true, Bool.true_or]

theorem toNat_lt_of_isAlphanum {c : Char} (h : c.isAlphanum = true) : c.toNat < 128 := by
  have hcases : ((c.isUpper || c.isLower) || c.isDigit) = true := h
  simp only [Bool.or_eq_true] at hcases
  -- Each of the ranges ends below 128.
  rcases hcases with (hupper | hlower) | hdigit
  · have hrange : 'A'.val ≤ c.val ∧ c.val ≤ 'Z'.val := of_decide_eq_true hupper
    exact Nat.lt_of_le_of_lt (UInt32.le_iff_toNat_le.mp hrange.2) (by decide)
  · have hle : c.val ≤ 'z'.val := of_decide_eq_true (Bool.and_eq_true_iff.mp hlower).2
    exact Nat.lt_of_le_of_lt (UInt32.le_iff_toNat_le.mp hle) (by decide)
  · exact Nat.lt_of_le_of_lt (Char.isDigit_iff_toNat.mp hdigit).2 (by decide)

theorem toNat_lt_of_belongs {c : Char} (h : belongs c = true) : c.toNat < 128 := by
  simp only [belongs, isIdentifierChar, Bool.or_eq_true, beq_iff_eq] at h
  rcases h with (h | rfl) | rfl
  · exact toNat_lt_of_isAlphanum h
  · decide
  · decide

theorem isBlank_of_belongs {c : Char} (h : belongs c = true) : isBlank c = false := by
  have all : ∀ n ∈ List.range 128,
      belongs (Char.ofNat n) = true → isBlank (Char.ofNat n) = false := by
    decide +kernel
  exact forall_ascii (P := fun c => belongs c = true → isBlank c = false) all
    (toNat_lt_of_belongs h) h

theorem mem_marked {mark : Char} {part : Part} {ids : List String}
    (h : ∀ s ∈ ids, IsIdentifier part s) {c : Char} (hc : c ∈ marked mark ids) :
    c = mark ∨ belongs c = true := by
  cases ids with
  | nil => cases hc
  | cons s ids =>
    rcases List.mem_cons.mp hc with rfl | hmem
    · exact Or.inl rfl
    · exact Or.inr (belongs_of_mem_intercalate h hmem)

/-- There are no blanks in the text of a version. -/
theorem isBlank_of_mem_text {v : Version} (hv : v.Proper) {c : Char} (hc : c ∈ v.text.toList) :
    isBlank c = false := by
  have hnumber : ∀ n : Nat, c ∈ Nat.toDigits 10 n → isBlank c = false := fun n hmem =>
    isBlank_of_belongs (belongs_of_isDigit (Text.isDigit_of_mem_toDigits hmem))
  simp only [toList_text, List.mem_append, List.mem_cons] at hc
  rcases hc with hmem | rfl | hmem | rfl | hmem | hmem | hmem
  · exact hnumber _ hmem
  · rfl
  · exact hnumber _ hmem
  · rfl
  · exact hnumber _ hmem
  · rcases mem_marked hv.pre hmem with rfl | hbelongs
    · rfl
    · exact isBlank_of_belongs hbelongs
  · rcases mem_marked hv.build hmem with rfl | hbelongs
    · rfl
    · exact isBlank_of_belongs hbelongs

theorem isBlank_of_mem_shortText {major minor : BitVec 64} {c : Char}
    (hc : c ∈ (shortText major minor).toList) : isBlank c = false := by
  refine isBlank_of_mem_text (proper_release major minor 0) ?_
  rw [text_release_zero, String.toList_append]
  exact List.mem_append_left _ hc

/-- A number comes first, so no letter `v` is in front. -/
theorem ends_toDigits_append (n : Nat) (rest : List Char) :
    Ends (· == 'v') (Nat.toDigits 10 n ++ rest) := by
  cases hdigits : Nat.toDigits 10 n with
  | nil => exact absurd hdigits Nat.toDigits_ne_nil
  | cons c cs =>
    have hc : c.isDigit = true := Text.isDigit_of_mem_toDigits (hdigits ▸ List.mem_cons_self)
    refine ends_cons_iff.mpr (beq_eq_false_iff_ne.mpr ?_)
    rintro rfl
    cases hc

/-- A text with any number of letters `v` in front. -/
def withMarks (n : Nat) (core : String) : String :=
  String.ofList (List.replicate n 'v') ++ core

/-- The text that is left without blanks around it and letters `v` in front. -/
def bare (s : String) : String :=
  String.ofList (stripMarks (Text.trimChars s.toList))

theorem bare_of_padded {n : Nat} {core s : String} (hpadded : Padded (withMarks n core) s)
    (hblank : ∀ c ∈ core.toList, isBlank c = false) (hfirst : Ends (· == 'v') core.toList) :
    bare s = core := by
  have hmarked : (withMarks n core).toList = List.replicate n 'v' ++ core.toList := by
    rw [withMarks, String.toList_append, String.toList_ofList]
  have hnone : ∀ c ∈ (withMarks n core).toList, isBlank c = false := by
    intro c hc
    rw [hmarked, List.mem_append] at hc
    rcases hc with hmark | hcore
    · rw [List.eq_of_mem_replicate hmark]
      rfl
    · exact hblank c hcore
  have htrim : Text.trimChars s.toList = List.replicate n 'v' ++ core.toList := by
    rw [← hmarked, ← Text.trim_of_padded hpadded hnone, Text.trim, String.toList_ofList]
  have hmarks : ∀ c ∈ List.replicate n 'v', (c == 'v') = true := fun c hc =>
    beq_iff_eq.mpr (List.eq_of_mem_replicate hc)
  obtain ⟨-, hdrop⟩ := Text.takeWhile_dropWhile_iff.mpr ⟨htrim, hmarks, hfirst⟩
  rw [bare, stripMarks, hdrop, String.ofList_toList]

/-- Nothing but blanks and letters `v` is taken off. -/
theorem exists_padded_bare (s : String) : ∃ n, Padded (withMarks n (bare s)) s := by
  obtain ⟨after, hafter, hright⟩ := Text.exists_blanks (s.toList.dropWhile isBlank)
  let marks := (Text.trimChars s.toList).takeWhile (· == 'v')
  have hmarks : marks = List.replicate marks.length 'v' :=
    List.eq_replicate_of_mem fun c hc => eq_of_beq (List.all_eq_true.mp List.all_takeWhile c hc)
  refine ⟨marks.length, s.toList.takeWhile isBlank, after, List.all_takeWhile,
    List.all_eq_true.mpr hafter, ?_⟩
  rw [← String.toList_inj]
  simp only [withMarks, bare, stripMarks, String.toList_append, String.toList_ofList, ← hmarks]
  calc s.toList
      = s.toList.takeWhile isBlank ++ s.toList.dropWhile isBlank :=
        List.takeWhile_append_dropWhile.symm
    _ = s.toList.takeWhile isBlank ++ (Text.trimChars s.toList ++ after) := by
        rw [hright]
        rfl
    _ = s.toList.takeWhile isBlank
          ++ (marks ++ (Text.trimChars s.toList).dropWhile (· == 'v')) ++ after := by
        rw [List.takeWhile_append_dropWhile, List.append_assoc]

/-- What the loose reader accepts. -/
theorem readLoose_eq_ok_iff {s : String} {v : Version} :
    readLoose s = .ok v ↔ v.Proper ∧ (bare s = v.text
      ∨ (bare s).toList.count '.' = 1 ∧ bare s ++ ".0" = v.text) := by
  have hread : readLoose s = .ok v ↔ v.Proper ∧ complete (bare s).toList = v.text.toList := by
    rw [bare, String.toList_ofList]
    exact readChars_eq_ok_iff
  have hcompleted : (bare s ++ ".0").toList = (bare s).toList ++ ['.', '0'] :=
    String.toList_append
  rw [hread, complete_eq_text_iff, ← String.toList_inj, ← String.toList_inj, hcompleted]

/-- The loose reader reads the strict text of every version, with blanks around it and letters `v`
in front, as this version, and two numbers as those of a version that has no third one. It reads
nothing else. -/
theorem readLoose_extends_read :
    (∀ (v : Version) (n : Nat) (s : String), v.Proper → Padded (withMarks n v.text) s →
        readLoose s = .ok v)
      ∧ (∀ (major minor : BitVec 64) (n : Nat) (s : String),
        Padded (withMarks n (shortText major minor)) s →
        readLoose s = .ok (release major minor 0))
      ∧ ∀ (s : String) (v : Version), readLoose s = .ok v →
        v.Proper ∧ (∃ n, Padded (withMarks n (bare s)) s)
          ∧ (bare s = v.text ∨ (bare s).toList.count '.' = 1 ∧ bare s ++ ".0" = v.text) := by
  refine ⟨?_, ?_, ?_⟩
  · intro v n s hv hpadded
    have hfirst : Ends (· == 'v') v.text.toList := by
      rw [toList_text]
      exact ends_toDigits_append _ _
    have hbare : bare s = v.text :=
      bare_of_padded hpadded (fun c hc => isBlank_of_mem_text hv hc) hfirst
    exact readLoose_eq_ok_iff.mpr ⟨hv, Or.inl hbare⟩
  · intro major minor n s hpadded
    have hfirst : Ends (· == 'v') (shortText major minor).toList := by
      rw [toList_shortText]
      exact ends_toDigits_append _ _
    have hbare : bare s = shortText major minor :=
      bare_of_padded hpadded (fun c hc => isBlank_of_mem_shortText hc) hfirst
    refine readLoose_eq_ok_iff.mpr ⟨proper_release major minor 0, Or.inr ?_⟩
    rw [hbare]
    exact ⟨count_shortText major minor, (text_release_zero major minor).symm⟩
  · intro s v h
    obtain ⟨hv, hbare⟩ := readLoose_eq_ok_iff.mp h
    exact ⟨hv, exists_padded_bare s, hbare⟩

/-- A pre-release with dots between its identifiers, and build metadata with zeros in front. -/
def candidate : Version :=
  ⟨1, 4, 1, ["rc", "1", "x-0"], ["b", "007"]⟩

/-- Dots behind the numbers do not count, and the two numbers of `v1.3` are completed. -/
theorem readLoose_extends_read_candidate :
    candidate.Proper ∧ readLoose "\tvv1.4.1-rc.1.x-0+b.007 " = .ok candidate
      ∧ readLoose " v1.3" = .ok (release 1 3 0)
      ∧ (bare " v1.3" = (release 1 3 0).text
        ∨ (bare " v1.3").toList.count '.' = 1 ∧ bare " v1.3" ++ ".0" = (release 1 3 0).text) := by
  have hread : read "1.4.1-rc.1.x-0+b.007" = .ok candidate := rfl
  obtain ⟨hproper, htext⟩ := read_eq_ok_iff.mp hread
  have hpadded : Padded (withMarks 2 candidate.text) "\tvv1.4.1-rc.1.x-0+b.007 " := by
    rw [← htext]
    exact ⟨['\t'], [' '], rfl, rfl, rfl⟩
  have hshort : Padded (withMarks 1 (shortText 1 3)) " v1.3" := ⟨[' '], [], rfl, rfl, rfl⟩
  obtain ⟨hstrict, htwo, honly⟩ := readLoose_extends_read
  have hcompleted := htwo 1 3 1 " v1.3" hshort
  exact ⟨hproper, hstrict candidate 2 _ hproper hpadded, hcompleted,
    (honly _ _ hcompleted).2.2⟩

end SafeOps.Version
