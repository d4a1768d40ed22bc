import SafeOps.Proofs.Failable
import SafeOps.Proofs.Text.Ascii
import SafeOps.Proofs.Text.Split
import SafeOps.Url.Domain

/-!
# `SafeOps.Proofs.Url.Domain`: the characters of domain names

A domain name is in ASCII, and none of its characters separates parts of a URL
(`isForbidden_of_mem_ascii?`). What a name is made of either stood in its spelling, where such
characters are looked for, or comes from Punycode, which writes letters, digits and hyphens only
(`mem_encode`).

A name in ASCII that has nothing in Punycode is taken as it is, in lowercase (`ascii?_of_plain`).
-/

set_option autoImplicit false

namespace SafeOps.Url

/-! ### Punycode -/

namespace Punycode

/-- A character that numbers are written with. -/
def IsDigit (c : Char) : Prop :=
  ∃ d < 36, c = digitChar d

theorem threshold_le (place bias : Nat) : threshold place bias ≤ 26 := by
  unfold threshold
  split
  · omega
  · split <;> omega

theorem isDigit_of_mem_digits {bias place q : Nat} {c : Char} (h : c ∈ digits bias place q) :
    IsDigit c := by
  induction place, q using digits.induct bias with
  | case1 place q t hlt =>
    have hle := threshold_le place bias
    rw [digits, if_pos hlt, List.mem_singleton] at h
    exact ⟨q, by omega, h⟩
  | case2 place q t hge ih =>
    have hpos := threshold_pos place bias
    have hle := threshold_le place bias
    rw [digits, if_neg hge, List.mem_cons] at h
    rcases h with h | h
    · have hmod : (q - threshold place bias) % (36 - threshold place bias)
          < 36 - threshold place bias := Nat.mod_lt _ (by omega)
      exact ⟨_, by omega, h⟩
    · exact ih h

/-- What is written while a character is looked at are digits. -/
theorem mem_out_visit {asciiCount code : Nat} {w : Writer} {c x : Char}
    (h : x ∈ (w.visit asciiCount code c).out) : x ∈ w.out ∨ IsDigit x := by
  unfold Writer.visit at h
  split at h
  · exact Or.inl h
  · split at h
    · rcases List.mem_append.mp h with h | h
      · exact Or.inl h
      · exact Or.inr (isDigit_of_mem_digits h)
    · exact Or.inl h

theorem mem_out_foldl_visit {asciiCount code : Nat} {label : List Char} {w : Writer} {x : Char}
    (h : x ∈ (label.foldl (Writer.visit asciiCount code) w).out) : x ∈ w.out ∨ IsDigit x := by
  induction label generalizing w with
  | nil => exact Or.inl h
  | cons c label ih =>
    rcases ih h with h | h
    · exact mem_out_visit h
    · exact Or.inr h

theorem mem_out_writeCodes {label : List Char} {asciiCount : Nat} {codes : List Nat} {next : Nat}
    {w : Writer} {x : Char} (h : x ∈ (writeCodes label asciiCount codes next w).out) :
    x ∈ w.out ∨ IsDigit x := by
  induction codes generalizing next w with
  | nil => exact Or.inl h
  | cons code codes ih =>
    rw [writeCodes] at h
    rcases ih h with h | h
    · rcases mem_out_foldl_visit h with h | h
      · exact Or.inl h
      · exact Or.inr h
    · exact Or.inr h

/-- A label is written with its own characters, a hyphen and digits. -/
theorem mem_encode {label : List Char} {x : Char} (h : x ∈ encode label) :
    x ∈ label ∨ x = '-' ∨ IsDigit x := by
  rw [encode, List.mem_append, List.mem_append] at h
  rcases h with (h | h) | h
  · exact Or.inl (List.mem_filter.mp h).1
  · split at h
    · cases h
    · exact Or.inr (Or.inl (List.mem_singleton.mp h))
  · rcases mem_out_writeCodes h with h | h
    · cases h
    · exact Or.inr (Or.inr h)

end Punycode

/-! ### Names -/

namespace Domain

/-- A label in ASCII is made of characters of the label, of those of the mark, and of those that
Punycode writes. -/
theorem mem_ascii_of_read? {label : List Char} {l : Label} (h : Label.read? label = some l)
    {c : Char} (hc : c ∈ l.ascii) :
    c ∈ label ∨ c ∈ Label.mark ∨ Punycode.IsDigit c := by
  have hhyphen : '-' ∈ Label.mark := by decide
  unfold Label.read? at h
  split at h
  · obtain ⟨-, h⟩ := Option.ite_none_right_eq_some.mp h
    obtain ⟨-, h⟩ := Option.ite_none_left_eq_some.mp h
    split at h
    · obtain ⟨-, h⟩ := Option.ite_none_left_eq_some.mp h
      cases h
      rcases List.mem_append.mp hc with hc | hc
      · exact Or.inr (Or.inl hc)
      · exact Or.inl (List.mem_of_mem_drop hc)
    · cases h
  · split at h
    · cases h
      exact Or.inl hc
    · obtain ⟨-, h⟩ := Option.ite_none_right_eq_some.mp h
      cases h
      rcases List.mem_append.mp hc with hc | hc
      · exact Or.inr (Or.inl hc)
      · rcases Punycode.mem_encode hc with hc | rfl | hc
        · exact Or.inl hc
        · exact Or.inr (Or.inl hhyphen)
        · exact Or.inr (Or.inr hc)

/-- No character of a domain name separates parts of a URL. -/
theorem isForbidden_of_mem_ascii? {cs name : List Char} (h : ascii? cs = some name) {c : Char}
    (hc : c ∈ name) : isForbidden c = false := by
  simp only [ascii?, Option.bind_eq_bind, Option.bind_eq_some_iff] at h
  obtain ⟨spelled, -, h⟩ := h
  obtain ⟨hallowed, h⟩ := Option.ite_none_left_eq_some.mp h
  simp only [Option.bind_eq_some_iff] at h
  obtain ⟨labels, hlabels, h⟩ := h
  obtain ⟨-, h⟩ := Option.ite_none_right_eq_some.mp h
  cases h
  rcases Text.mem_intercalate hc with rfl | ⟨ascii, hascii, hmem⟩
  · decide
  · obtain ⟨l, hl, rfl⟩ := List.mem_map.mp hascii
    obtain ⟨label, hlabel, hread⟩ := exists_of_mem_of_mapM hlabels hl
    rcases mem_ascii_of_read? hread hmem with hmem | hmem | ⟨d, hd, rfl⟩
    · have hspelled := Text.mem_of_mem_splitOn hlabel hmem
      rw [List.any_eq_true, not_exists] at hallowed
      simpa [hspelled] using hallowed c
    · have all : ∀ c ∈ Label.mark, isForbidden c = false := forall_mem_of_all (by decide)
      exact all c hmem
    · have all : ∀ d ∈ List.range 36, isForbidden (Punycode.digitChar d) = false := by decide
      exact all d (List.mem_range.mpr hd)

/-! ### Names in ASCII -/

theorem toLower_lt {c : Char} (h : c.toNat < 128) : c.toLower.toNat < 128 :=
  forall_ascii (P := fun c => c.toLower.toNat < 128) (by decide +kernel) h

/-- No character of ASCII is written from right to left. -/
theorem turns_ofChar {c : Char} (h : c.toNat < 128) :
    Text.BidiClass.turns (Text.BidiClass.ofChar c) = false :=
  forall_ascii (P := fun c => Text.BidiClass.turns (Text.BidiClass.ofChar c) = false)
    (by decide +kernel) h

theorem spelling?_of_ascii {cs : List Char} (h : ∀ c ∈ cs, c.toNat < 128) :
    spelling? cs = some (cs.map Char.toLower) := by
  have himages : cs.mapM Mapping.image? = some (cs.map fun c => [c.toLower]) :=
    mapM_eq_pure_map (m := Option) fun c hc => if_pos (h c hc)
  have hflat : (cs.map fun c => [c.toLower]).flatten = cs.map Char.toLower := by
    rw [← List.flatMap_def, ← List.map_eq_flatMap]
  have hlower : (cs.map Char.toLower).all (·.toNat < 128) = true := by
    simp only [List.all_map, List.all_eq_true, Function.comp_apply, decide_eq_true_eq]
    exact fun c hc => toLower_lt (h c hc)
  rw [spelling?, Mapping.images?, himages, Option.map_some, Option.map_some, hflat,
    Text.normalForm, if_pos hlower]

/-- A name in ASCII is taken in lowercase, if it has nothing in Punycode. -/
theorem ascii?_of_plain {cs : List Char} (h : ∀ c ∈ cs, c.toNat < 128)
    (hallowed : ∀ c ∈ cs, isForbidden c.toLower = false)
    (hmark : ∀ label ∈ Text.splitOn '.' (cs.map Char.toLower), ¬ Label.mark <+: label) :
    ascii? cs = some (cs.map Char.toLower) := by
  let labels := Text.splitOn '.' (cs.map Char.toLower)
  have hascii : ∀ label ∈ labels, ∀ c ∈ label, c.toNat < 128 := by
    intro label hlabel c hc
    obtain ⟨c', hc', rfl⟩ := List.mem_map.mp (Text.mem_of_mem_splitOn hlabel hc)
    exact toLower_lt (h c' hc')
  have hread : labels.mapM Label.read? = some (labels.map fun label => ⟨label, label⟩) := by
    refine mapM_eq_pure_map (m := Option) fun label hlabel => ?_
    have hplain : label.all (·.toNat < 128) = true := by
      simpa using hascii label hlabel
    rw [Label.read?, if_neg (by simpa using hmark label hlabel), if_pos hplain]
    rfl
  have hnone : (cs.map Char.toLower).any isForbidden = false := by
    simpa using hallowed
  -- Without letters from the right there is nothing to be read in two ways.
  have hreadable : Text.isReadable labels = true := by
    have hturns : (labels.map fun label => label.map Text.BidiClass.ofChar).any
        (fun label => label.any Text.BidiClass.turns) = false := by
      simp only [List.any_map, List.any_eq_false, Function.comp_apply, Bool.not_eq_true]
      intro label hlabel c hc
      exact turns_ofChar (hascii label hlabel c hc)
    simp [Text.isReadable, hturns]
  simp only [ascii?, spelling?_of_ascii h, Option.bind_eq_bind, Option.bind_some, hnone,
    Bool.false_eq_true, if_false]
  show (labels.mapM Label.read?).bind _ = _
  simp only [hread, Option.bind_some, List.map_map, Function.comp_def, List.map_id', hreadable,
    if_true, labels, Text.intercalate_splitOn]

end Domain

end SafeOps.Url
