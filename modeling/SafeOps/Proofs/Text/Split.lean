import SafeOps.Text.Split

/-!
# `SafeOps.Proofs.Text.Split`: cutting what was joined

`intercalate_splitOn` says that the pieces of a text, joined again, are the text. The other way
round needs pieces without a separator: `splitOn_intercalate` cuts such pieces apart after they
were joined, and `splitOnce_append` finds the first separator behind a piece, which is all that
`splitOnce` ever finds (`splitOnce_eq_some_iff`).
-/

set_option autoImplicit false

namespace SafeOps.Text

theorem splitOn_of_not_mem {separator : Char} {cs : List Char} (h : separator ∉ cs) :
    splitOn separator cs = [cs] := by
  induction cs with
  | nil => rfl
  | cons c cs ih =>
    rw [List.mem_cons, not_or] at h
    rw [splitOn, if_neg (Ne.symm h.1), ih h.2]

/-- A text is cut behind a first piece without a separator. -/
theorem splitOn_append {separator : Char} {piece rest : List Char} (h : separator ∉ piece) :
    splitOn separator (piece ++ separator :: rest) = piece :: splitOn separator rest := by
  induction piece with
  | nil =>
    rw [List.nil_append, splitOn, if_pos rfl]
  | cons c cs ih =>
    rw [List.mem_cons, not_or] at h
    rw [List.cons_append, splitOn, if_neg (Ne.symm h.1), ih h.2]

/-- Pieces without a separator are found again after they were joined. -/
theorem splitOn_intercalate {separator : Char} {pieces : List (List Char)} (hne : pieces ≠ [])
    (h : ∀ piece ∈ pieces, separator ∉ piece) :
    splitOn separator (List.intercalate [separator] pieces) = pieces := by
  induction pieces with
  | nil => exact absurd rfl hne
  | cons piece rest ih =>
    have hpiece : separator ∉ piece := h piece List.mem_cons_self
    cases rest with
    | nil =>
      rw [List.intercalate_singleton]
      exact splitOn_of_not_mem hpiece
    | cons next others =>
      have hrest := ih (List.cons_ne_nil next others) fun p hp =>
        h p (List.mem_cons_of_mem piece hp)
      rw [List.intercalate_cons_cons, List.append_assoc, List.singleton_append,
        splitOn_append hpiece, hrest]

/-- Characters that are changed one by one are changed in each of the pieces. -/
theorem map_intercalate (f : Char → Char) (separator : Char) (pieces : List (List Char)) :
    (List.intercalate [separator] pieces).map f
      = List.intercalate [f separator] (pieces.map (List.map f)) := by
  induction pieces with
  | nil => rfl
  | cons piece rest ih =>
    cases rest with
    | nil => simp
    | cons next others =>
      rw [List.intercalate_cons_cons, List.map_append, List.map_append, ih]
      simp [List.intercalate_cons_cons]

/-- What stands in joined pieces is the separator or stands in one of them. -/
theorem mem_intercalate {separator c : Char} {pieces : List (List Char)}
    (h : c ∈ List.intercalate [separator] pieces) :
    c = separator ∨ ∃ piece ∈ pieces, c ∈ piece := by
  induction pieces with
  | nil => cases h
  | cons piece rest ih =>
    cases rest with
    | nil =>
      rw [List.intercalate_singleton] at h
      exact Or.inr ⟨piece, List.mem_cons_self, h⟩
    | cons next others =>
      rw [List.intercalate_cons_cons, List.append_assoc, List.singleton_append,
        List.mem_append, List.mem_cons] at h
      rcases h with h | rfl | h
      · exact Or.inr ⟨piece, List.mem_cons_self, h⟩
      · exact Or.inl rfl
      · rcases ih h with rfl | ⟨p, hp, hc⟩
        · exact Or.inl rfl
        · exact Or.inr ⟨p, List.mem_cons_of_mem piece hp, hc⟩

/-- The pieces of a text have no characters that the text does not have. -/
theorem mem_of_mem_splitOn {separator c : Char} {cs piece : List Char}
    (hpiece : piece ∈ splitOn separator cs) (hc : c ∈ piece) : c ∈ cs := by
  induction cs generalizing piece with
  | nil =>
    rw [splitOn, List.mem_singleton] at hpiece
    rw [hpiece] at hc
    cases hc
  | cons d cs ih =>
    rw [splitOn] at hpiece
    split at hpiece
    · rcases List.mem_cons.mp hpiece with rfl | hrest
      · cases hc
      · exact List.mem_cons_of_mem d (ih hrest hc)
    · cases hsplit : splitOn separator cs with
      | nil => exact absurd hsplit (splitOn_ne_nil separator cs)
      | cons first others =>
        rw [hsplit] at hpiece ih
        rcases List.mem_cons.mp hpiece with rfl | hrest
        · rcases List.mem_cons.mp hc with rfl | hfirst
          · exact List.mem_cons_self
          · exact List.mem_cons_of_mem d (ih List.mem_cons_self hfirst)
        · exact List.mem_cons_of_mem d (ih (List.mem_cons_of_mem first hrest) hc)

/-- No piece has the separator. -/
theorem not_mem_of_mem_splitOn {separator : Char} {cs piece : List Char}
    (hpiece : piece ∈ splitOn separator cs) : separator ∉ piece := by
  induction cs generalizing piece with
  | nil =>
    rw [List.mem_singleton.mp hpiece]
    exact List.not_mem_nil
  | cons c cs ih =>
    rw [splitOn] at hpiece
    split at hpiece
    · rcases List.mem_cons.mp hpiece with rfl | hrest
      · exact List.not_mem_nil
      · exact ih hrest
    · next hc =>
      cases hsplit : splitOn separator cs with
      | nil => exact absurd hsplit (splitOn_ne_nil separator cs)
      | cons first others =>
        rw [hsplit] at hpiece ih
        rcases List.mem_cons.mp hpiece with rfl | hrest
        · exact List.not_mem_cons_of_ne_of_not_mem (Ne.symm hc) (ih List.mem_cons_self)
        · exact ih (List.mem_cons_of_mem first hrest)

/-- The first separator stands behind a first piece without one. -/
theorem splitOnce_append {separator : Char} {piece rest : List Char} (h : separator ∉ piece) :
    splitOnce separator (piece ++ separator :: rest) = some (piece, rest) := by
  induction piece with
  | nil => rw [List.nil_append, splitOnce, if_pos rfl]
  | cons c cs ih =>
    rw [List.mem_cons, not_or] at h
    rw [List.cons_append, splitOnce, if_neg (Ne.symm h.1), ih h.2]
    rfl

/-- A text is cut behind a first piece without a separator, and nowhere else. -/
theorem splitOnce_eq_some_iff {separator : Char} {cs before after : List Char} :
    splitOnce separator cs = some (before, after) ↔
      cs = before ++ separator :: after ∧ separator ∉ before := by
  constructor
  · intro h
    induction cs generalizing before with
    | nil => cases h
    | cons c cs ih =>
      rw [splitOnce] at h
      split at h
      · next hc =>
        cases h
        exact ⟨by rw [hc, List.nil_append], List.not_mem_nil⟩
      · next hc =>
        obtain ⟨⟨front, back⟩, hrest, heq⟩ := Option.map_eq_some_iff.mp h
        cases heq
        obtain ⟨rfl, hfront⟩ := ih hrest
        exact ⟨rfl, List.not_mem_cons_of_ne_of_not_mem (Ne.symm hc) hfront⟩
  · rintro ⟨rfl, h⟩
    exact splitOnce_append h

/-- No character that `p` has comes next. -/
def Ends (p : Char → Bool) (cs : List Char) : Prop :=
  ∀ c ∈ cs.head?, p c = false

theorem ends_nil (p : Char → Bool) : Ends p [] :=
  nofun

theorem ends_cons_iff {p : Char → Bool} {c : Char} {cs : List Char} :
    Ends p (c :: cs) ↔ p c = false := by
  simp [Ends]

/-- A text is cut where the characters that `p` has end. -/
theorem takeWhile_dropWhile_iff {p : Char → Bool} {cs front rest : List Char} :
    cs.takeWhile p = front ∧ cs.dropWhile p = rest ↔
      cs = front ++ rest ∧ (∀ c ∈ front, p c = true) ∧ Ends p rest := by
  constructor
  · rintro ⟨rfl, rfl⟩
    refine ⟨List.takeWhile_append_dropWhile.symm, List.all_eq_true.mp List.all_takeWhile, ?_⟩
    intro c hc
    have hhead := List.head?_dropWhile_not p cs
    rw [Option.mem_def.mp hc] at hhead
    exact hhead
  · rintro ⟨rfl, hfront, hrest⟩
    rw [List.takeWhile_append_of_pos hfront, List.dropWhile_append_of_pos hfront]
    cases rest with
    | nil => simp
    | cons c cs =>
      have hc : ¬p c = true := by
        rw [ends_cons_iff.mp hrest]
        exact Bool.false_ne_true
      rw [List.takeWhile_cons_of_neg hc, List.dropWhile_cons_of_neg hc, List.append_nil]
      exact ⟨rfl, rfl⟩

theorem splitOnce_eq_none_iff {separator : Char} {cs : List Char} :
    splitOnce separator cs = none ↔ separator ∉ cs := by
  induction cs with
  | nil => exact ⟨fun _ => List.not_mem_nil, fun _ => rfl⟩
  | cons c cs ih =>
    rw [splitOnce, List.mem_cons, not_or]
    split
    · next hc => exact ⟨nofun, fun h => absurd hc.symm h.1⟩
    · next hc =>
      rw [Option.map_eq_none_iff, ih]
      exact ⟨fun h => ⟨Ne.symm hc, h⟩, And.right⟩

end SafeOps.Text
