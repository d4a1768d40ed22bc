import SafeOps.Text.Blank

/-!
# `SafeOps.Proofs.Text.Blank`: trimming leaves the text between the blanks

Trimming takes blanks off the ends of a text. If the text was put between blanks and has none
itself, it is what is left (`trim_of_padded`). At the end, a last character that is no blank is
enough (`dropBlanksRight_concat`), and nothing but blanks is ever taken off there
(`exists_blanks`).
-/

set_option autoImplicit false

namespace SafeOps.Text

/-- A text has `core` in it and otherwise blanks, before and after. -/
def Padded (core text : String) : Prop :=
  ∃ before after : List Char, before.all isBlank ∧ after.all isBlank
    ∧ text = String.ofList before ++ core ++ String.ofList after

theorem padded_refl (core : String) : Padded core core :=
  ⟨[], [], rfl, rfl, by simp⟩

/-- Nothing is dropped of a text that has none of what is dropped. -/
theorem dropWhile_of_none {p : Char → Bool} {cs : List Char} (h : ∀ c ∈ cs, p c = false) :
    cs.dropWhile p = cs := by
  cases cs with
  | nil => rfl
  | cons c cs =>
    refine List.dropWhile_cons_of_neg ?_
    rw [h c List.mem_cons_self]
    exact Bool.false_ne_true

theorem dropBlanksRight_append {cs after : List Char} (h : ∀ c ∈ cs, isBlank c = false)
    (hafter : ∀ c ∈ after, isBlank c = true) : dropBlanksRight (cs ++ after) = cs := by
  rw [dropBlanksRight, List.reverse_append,
    List.dropWhile_append_of_pos fun c hc => hafter c (List.mem_reverse.mp hc),
    dropWhile_of_none fun c hc => h c (List.mem_reverse.mp hc), List.reverse_reverse]

/-- Blanks behind a character that is none are taken off, and nothing else. -/
theorem dropBlanksRight_concat {cs blanks : List Char} {c : Char} (h : isBlank c = false)
    (hblanks : ∀ b ∈ blanks, isBlank b = true) :
    dropBlanksRight (cs ++ c :: blanks) = cs ++ [c] := by
  have hlast : ¬isBlank c = true := by
    rw [h]
    exact Bool.false_ne_true
  rw [dropBlanksRight, List.reverse_append, List.reverse_cons, List.append_assoc,
    List.dropWhile_append_of_pos fun b hb => hblanks b (List.mem_reverse.mp hb),
    List.singleton_append, List.dropWhile_cons_of_neg hlast, List.reverse_cons,
    List.reverse_reverse]

/-- What is taken off at the end of a text are blanks. -/
theorem exists_blanks (cs : List Char) :
    ∃ blanks : List Char, (∀ b ∈ blanks, isBlank b = true) ∧ cs = dropBlanksRight cs ++ blanks := by
  refine ⟨(cs.reverse.takeWhile isBlank).reverse, fun b hb => ?_, ?_⟩
  · exact List.all_eq_true.mp List.all_takeWhile b (List.mem_reverse.mp hb)
  · rw [dropBlanksRight, ← List.reverse_append, List.takeWhile_append_dropWhile,
      List.reverse_reverse]

theorem trimChars_append {before cs after : List Char} (h : ∀ c ∈ cs, isBlank c = false)
    (hbefore : ∀ c ∈ before, isBlank c = true) (hafter : ∀ c ∈ after, isBlank c = true) :
    trimChars (before ++ cs ++ after) = cs := by
  rw [trimChars, List.append_assoc, List.dropWhile_append_of_pos hbefore]
  cases cs with
  | nil =>
    -- With nothing in between, the blanks after are taken off together with those before.
    have hnone : (after ++ []).dropWhile isBlank = [].dropWhile isBlank :=
      List.dropWhile_append_of_pos hafter
    rw [List.append_nil] at hnone
    rw [List.nil_append, hnone]
    rfl
  | cons c cs =>
    have hfirst : ¬isBlank c = true := by
      rw [h c List.mem_cons_self]
      exact Bool.false_ne_true
    rw [List.cons_append, List.dropWhile_cons_of_neg hfirst, ← List.cons_append,
      dropBlanksRight_append h hafter]

/-- Of a text between blanks the blanks are taken off. -/
theorem trim_of_padded {core text : String} (hpadded : Padded core text)
    (h : ∀ c ∈ core.toList, isBlank c = false) : trim text = core := by
  obtain ⟨before, after, hbefore, hafter, rfl⟩ := hpadded
  rw [trim, String.toList_append, String.toList_append, String.toList_ofList,
    String.toList_ofList, trimChars_append h (List.all_eq_true.mp hbefore)
      (List.all_eq_true.mp hafter), String.ofList_toList]

end SafeOps.Text
