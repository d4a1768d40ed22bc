import SafeOps.Json.Outline
import SafeOps.Proofs.Failable

/-!
# `SafeOps.Proofs.Json.Outline`: the form of JSON, and the parts of a text that has it

`ValueForm` is the grammar of JSON on bytes. It says where quotes, brackets and marks stand, and
nothing of what is between the quotes of a string but that it has no control and no broken escape.
A container is put together from the texts of its keys and values (`EntriesForm`), so that these can
be told from it. `HasForm` are the texts of values, `Outlined` those of containers with given
entries.

For each rule of the grammar there are two lemmas about the function that passes over it. What it
passes over has the form (`exists_stringForm`, `exists_numberForm`, `exists_valueForm`), and what
has the form is passed over, no more and no less (`skipString_append`, `skipNumber_append`,
`skipValue_append`). A string knows its own end, but a number goes on as long as it can, so what
follows it must not go on with it: `Stops` is said of what may follow a value. The entries of a
container are followed with any function for its values (`skipEntries_append`,
`exists_entriesForm`), which closes the induction over the nesting.

So the entries are found exactly in those texts that have the form (`outline_eq_some_iff`), and the
members of a record in those of its texts whose keys can be read (`readRecord_eq_some_iff`).
-/

set_option autoImplicit false

namespace SafeOps.Json

/-! ### The form of a value -/

/-- Any number of blanks: spaces, tabs and ends of lines. -/
def Blanks (t : Bytes) : Prop :=
  ∀ b ∈ t, b ∈ blanks

/-- A string after its opening quote, up to its closing one. Any byte stands for itself that is no
quote, no backslash and no control; a backslash is followed by one of eight letters, or by a `u`
and four digits. -/
inductive StringForm : Bytes → Prop
  | close : StringForm [34]
  | plain {b : UInt8} {t : Bytes} (hcontrol : 32 ≤ b) (hquote : b ≠ 34) (hslash : b ≠ 92)
      (hrest : StringForm t) : StringForm (b :: t)
  | short {b : UInt8} {t : Bytes} (hletter : b ∈ shortEscapes) (hrest : StringForm t) :
      StringForm (92 :: b :: t)
  | code {a b c d : UInt8} {t : Bytes} (hdigits : [a, b, c, d].all isHexDigit = true)
      (hrest : StringForm t) : StringForm (92 :: 117 :: a :: b :: c :: d :: t)

/-- One digit or more. -/
def Digits (t : Bytes) : Prop :=
  t ≠ [] ∧ ∀ b ∈ t, isDigit b = true

/-- The digits before a point: one zero, or digits of which the first is no zero. -/
def WholeForm (t : Bytes) : Prop :=
  t = [48] ∨ Digits t ∧ t.head? ≠ some 48

/-- Nothing, or a point and digits. -/
inductive FractionForm : Bytes → Prop
  | none : FractionForm []
  | some {t : Bytes} (hdigits : Digits t) : FractionForm (46 :: t)

/-- Nothing, or an `E` of either case, a sign that may be missing, and digits. -/
inductive ExponentForm : Bytes → Prop
  | none : ExponentForm []
  | some {mark : UInt8} {sign t : Bytes} (hmark : mark = 69 ∨ mark = 101)
      (hsign : sign = [] ∨ sign = [43] ∨ sign = [45]) (hdigits : Digits t) :
      ExponentForm (mark :: (sign ++ t))

/-- A number: a minus, which may be missing, and its parts. -/
inductive NumberForm : Bytes → Prop
  | intro {sign whole fraction exponent : Bytes} (hsign : sign = [] ∨ sign = [45])
      (hwhole : WholeForm whole) (hfraction : FractionForm fraction)
      (hexponent : ExponentForm exponent) :
      NumberForm (sign ++ (whole ++ (fraction ++ exponent)))

/-- What stands before a value in a container, up to the value itself: in an object the text of its
key and a colon. -/
inductive KeyForm : Frame → Bytes → Bytes → Prop
  | array {a : Bytes} (ha : Blanks a) : KeyForm .array [] a
  | object {a t b c : Bytes} (ha : Blanks a) (hkey : StringForm t) (hb : Blanks b)
      (hc : Blanks c) : KeyForm .object (34 :: t) (a ++ (34 :: t ++ (b ++ 58 :: c)))

/-- The inside of a container with the given entries: they are separated by commas. -/
inductive EntriesForm (f : Frame) : List Entry → Bytes → Prop
  | empty {a : Bytes} (ha : Blanks a) : EntriesForm f [] a
  | last {e : Entry} {k b : Bytes} (hkey : KeyForm f e.key k) (hb : Blanks b) :
      EntriesForm f [e] (k ++ (e.value ++ b))
  | next {e e' : Entry} {entries : List Entry} {k b t : Bytes} (hkey : KeyForm f e.key k)
      (hb : Blanks b) (hrest : EntriesForm f (e' :: entries) t) :
      EntriesForm f (e :: e' :: entries) (k ++ (e.value ++ (b ++ 44 :: t)))

/-- The text of a value. -/
inductive ValueForm : Bytes → Prop
  | word {t : Bytes} (hword : t ∈ words) : ValueForm t
  | number {t : Bytes} (hnumber : NumberForm t) : ValueForm t
  | string {t : Bytes} (hstring : StringForm t) : ValueForm (34 :: t)
  | container {f : Frame} {entries : List Entry} {t : Bytes} (hentries : EntriesForm f entries t)
      (hvalues : ∀ e ∈ entries, ValueForm e.value) :
      ValueForm (f.opening :: (t ++ [f.closing]))

/-- The text has the form of JSON: it is that of a value, with blanks around it. -/
inductive HasForm : Bytes → Prop
  | intro {a t b : Bytes} (ha : Blanks a) (hvalue : ValueForm t) (hb : Blanks b) :
      HasForm (a ++ (t ++ b))

/-- The text has the form of a container with the given entries. -/
inductive Outlined (f : Frame) (entries : List Entry) : Bytes → Prop
  | intro {a t b : Bytes} (ha : Blanks a) (hentries : EntriesForm f entries t)
      (hvalues : ∀ e ∈ entries, ValueForm e.value) (hb : Blanks b) :
      Outlined f entries (a ++ f.opening :: (t ++ f.closing :: b))

/-! ### Bytes in their places -/

/-- The bytes that may follow a value: a blank, a comma and the end of a container. -/
def stops : Bytes :=
  blanks ++ [44, 93, 125]

/-- The text is one that may follow a value. -/
def Stops (text : Bytes) : Prop :=
  ∀ b ∈ text.head?, b ∈ stops

/-- The text starts with a byte that may follow no value, as values do. -/
def Starts (text : Bytes) : Prop :=
  ∃ b t, text = b :: t ∧ b ∉ stops

theorem before_append (t rest : Bytes) : before (t ++ rest) rest = t := by
  rw [before, List.length_append, Nat.add_sub_cancel, List.take_left]

/-- What is dropped ends where it has to. -/
theorem dropWhile_append_of_head {p : UInt8 → Bool} {t rest : Bytes}
    (ht : ∀ b ∈ t, p b = true) (hrest : ∀ b ∈ rest.head?, p b = false) :
    (t ++ rest).dropWhile p = rest := by
  rw [List.dropWhile_append_of_pos ht]
  cases rest with
  | nil => rfl
  | cons b rest => exact List.dropWhile_cons_of_neg (by simp [hrest b rfl])

theorem forall_head_cons {p : UInt8 → Prop} {b : UInt8} (hb : p b) (t : Bytes) :
    ∀ x ∈ (b :: t).head?, p x := by
  intro x hx
  obtain rfl := Option.some.inj hx
  exact hb

theorem dropBlanks_append {a text : Bytes} (ha : Blanks a)
    (htext : ∀ b ∈ text.head?, b ∉ blanks) : dropBlanks (a ++ text) = text :=
  dropWhile_append_of_head (fun b hb => decide_eq_true (ha b hb))
    fun b hb => decide_eq_false (htext b hb)

theorem dropBlanks_append_cons {a : Bytes} {b : UInt8} (ha : Blanks a) (hb : b ∉ blanks)
    (t : Bytes) : dropBlanks (a ++ b :: t) = b :: t :=
  dropBlanks_append ha (forall_head_cons hb t)

/-- Blanks stand before what is left when they are dropped. -/
theorem exists_blanks (text : Bytes) : ∃ a, Blanks a ∧ text = a ++ dropBlanks text := by
  refine ⟨text.takeWhile isBlank, fun b hb => ?_, List.takeWhile_append_dropWhile.symm⟩
  exact of_decide_eq_true (List.all_eq_true.mp List.all_takeWhile b hb)

theorem Starts.head {t : Bytes} (h : Starts t) (rest : Bytes) :
    ∀ b ∈ (t ++ rest).head?, b ∉ blanks := by
  obtain ⟨b, t, rfl, hb⟩ := h
  exact forall_head_cons (fun hblank => hb (List.mem_append_left [44, 93, 125] hblank)) (t ++ rest)

/-! ### Strings -/

theorem skipString_append {t : Bytes} (h : StringForm t) (rest : Bytes) :
    skipString (t ++ rest) = some rest := by
  induction h with
  | close => rfl
  | @plain b t hcontrol hquote hslash _ ih =>
    have hnot : ¬ (b = 92 ∨ b < 32) := fun h => h.elim hslash fun hlt => absurd hlt (by grind)
    rw [List.cons_append, skipString, if_neg hnot, ih]
    · exact hquote
    · exact fun _ _ _ _ _ h => absurd h hslash
    · exact fun _ _ h => absurd h hslash
  | @short b t hletter _ ih =>
    have hcode : b ≠ 117 := by
      rintro rfl
      exact absurd hletter (by decide)
    rw [List.cons_append, List.cons_append, skipString, if_pos hletter, ih]
    exact fun _ _ _ _ _ h => absurd h hcode
  | @code a b c d t hdigits _ ih =>
    rw [List.cons_append, List.cons_append, List.cons_append, List.cons_append, List.cons_append,
      List.cons_append, skipString, if_pos hdigits, ih]

theorem exists_stringForm {text rest : Bytes} (h : skipString text = some rest) :
    ∃ t, StringForm t ∧ text = t ++ rest := by
  fun_induction skipString text with
  | case1 => cases h
  | case2 text =>
    obtain rfl := Option.some.inj h
    exact ⟨[34], .close, rfl⟩
  | case3 a b c d text hdigits ih =>
    obtain ⟨t, ht, rfl⟩ := ih h
    exact ⟨_, .code hdigits ht, rfl⟩
  | case4 => cases h
  | case5 b text _ hletter ih =>
    obtain ⟨t, ht, rfl⟩ := ih h
    exact ⟨_, .short hletter ht, rfl⟩
  | case6 => cases h
  | case7 => cases h
  | case8 b text hquote _ _ hplain ih =>
    obtain ⟨t, ht, rfl⟩ := ih h
    obtain ⟨hslash, hcontrol⟩ := not_or.mp hplain
    exact ⟨_, .plain (by grind) hquote hslash ht, rfl⟩

/-! ### Numbers -/

theorem skipDigits_append {t rest : Bytes} (h : Digits t)
    (hrest : ∀ b ∈ rest.head?, isDigit b = false) : skipDigits (t ++ rest) = some rest := by
  obtain ⟨hne, hdigits⟩ := h
  obtain ⟨b, t, rfl⟩ := List.exists_cons_of_ne_nil hne
  have hdrop : (t ++ rest).dropWhile isDigit = rest :=
    dropWhile_append_of_head (fun c hc => hdigits c (List.mem_cons_of_mem b hc)) hrest
  rw [List.cons_append, skipDigits, if_pos (hdigits b List.mem_cons_self), hdrop]

theorem exists_digits {text rest : Bytes} (h : skipDigits text = some rest) :
    ∃ t, Digits t ∧ text = t ++ rest := by
  cases text with
  | nil => cases h
  | cons b text =>
    obtain ⟨hb, hrest⟩ := Option.ite_none_right_eq_some.mp h
    obtain rfl := Option.some.inj hrest
    refine ⟨b :: text.takeWhile isDigit, ⟨List.cons_ne_nil _ _, fun c hc => ?_⟩, ?_⟩
    · rcases List.mem_cons.mp hc with rfl | hc
      · exact hb
      · exact List.all_eq_true.mp List.all_takeWhile c hc
    · rw [List.cons_append, List.takeWhile_append_dropWhile]

theorem skipWhole_append {t rest : Bytes} (h : WholeForm t)
    (hrest : ∀ b ∈ rest.head?, isDigit b = false) : skipWhole (t ++ rest) = some rest := by
  rcases h with rfl | ⟨hdigits, hzero⟩
  · rfl
  · rw [skipWhole, skipDigits_append hdigits hrest]
    intro text htext
    obtain ⟨b, t, rfl⟩ := List.exists_cons_of_ne_nil hdigits.1
    exact hzero (congrArg List.head? htext)

theorem exists_wholeForm {text rest : Bytes} (h : skipWhole text = some rest) :
    ∃ t, WholeForm t ∧ text = t ++ rest := by
  unfold skipWhole at h
  split at h
  · next text =>
    obtain rfl := Option.some.inj h
    exact ⟨[48], .inl rfl, rfl⟩
  · next hzero =>
    obtain ⟨t, ht, rfl⟩ := exists_digits h
    refine ⟨t, .inr ⟨ht, fun hhead => ?_⟩, rfl⟩
    obtain ⟨t', rfl⟩ := List.head?_eq_some_iff.mp hhead
    exact hzero _ rfl

theorem skipFraction_append {t rest : Bytes} (h : FractionForm t)
    (hdigit : ∀ b ∈ rest.head?, isDigit b = false) (hpoint : ∀ b ∈ rest.head?, b ≠ 46) :
    skipFraction (t ++ rest) = some rest := by
  cases h with
  | none =>
    rw [List.nil_append, skipFraction]
    rintro text rfl
    exact hpoint 46 rfl rfl
  | some hdigits => exact skipDigits_append hdigits hdigit

theorem exists_fractionForm {text rest : Bytes} (h : skipFraction text = some rest) :
    ∃ t, FractionForm t ∧ text = t ++ rest := by
  unfold skipFraction at h
  split at h
  · obtain ⟨t, ht, rfl⟩ := exists_digits h
    exact ⟨_, .some ht, rfl⟩
  · obtain rfl := Option.some.inj h
    exact ⟨[], .none, rfl⟩

theorem skipExponent_append {t rest : Bytes} (h : ExponentForm t)
    (hdigit : ∀ b ∈ rest.head?, isDigit b = false)
    (hmark : ∀ b ∈ rest.head?, b ≠ 69 ∧ b ≠ 101) :
    skipExponent (t ++ rest) = some rest := by
  cases h with
  | none =>
    rw [List.nil_append, skipExponent]
    · rintro text rfl
      exact (hmark 69 rfl).1 rfl
    · rintro text rfl
      exact (hmark 101 rfl).2 rfl
  | @some mark sign t hmark hsign hdigits =>
    have hskip : skipSign (sign ++ t ++ rest) = t ++ rest := by
      rcases hsign with rfl | rfl | rfl
      · -- Without a sign the first byte is a digit.
        obtain ⟨b, t, rfl⟩ := List.exists_cons_of_ne_nil hdigits.1
        have hb := hdigits.2 b List.mem_cons_self
        rw [List.nil_append, List.cons_append, skipSign]
        · rintro text hb'
          cases hb'
          exact absurd hb (by decide)
        · rintro text hb'
          cases hb'
          exact absurd hb (by decide)
      · rfl
      · rfl
    have hrest := skipDigits_append hdigits hdigit
    rw [← hskip] at hrest
    rcases hmark with rfl | rfl
    · exact hrest
    · exact hrest

theorem exists_sign (text : Bytes) :
    ∃ sign, (sign = [] ∨ sign = [43] ∨ sign = [45]) ∧ text = sign ++ skipSign text := by
  unfold skipSign
  split
  · exact ⟨[43], .inr (.inl rfl), rfl⟩
  · exact ⟨[45], .inr (.inr rfl), rfl⟩
  · exact ⟨[], .inl rfl, rfl⟩

theorem exists_exponentForm {text rest : Bytes} (h : skipExponent text = some rest) :
    ∃ t, ExponentForm t ∧ text = t ++ rest := by
  have hscaled : ∀ {mark : UInt8} {text : Bytes}, mark = 69 ∨ mark = 101 →
      skipDigits (skipSign text) = some rest →
      ∃ t, ExponentForm t ∧ mark :: text = t ++ rest := by
    intro mark text hmark hskip
    obtain ⟨sign, hsign, htext⟩ := exists_sign text
    obtain ⟨t, ht, hrest⟩ := exists_digits hskip
    refine ⟨_, .some hmark hsign ht, ?_⟩
    rw [htext, hrest, List.cons_append, List.append_assoc]
  unfold skipExponent at h
  split at h
  · exact hscaled (.inl rfl) h
  · exact hscaled (.inr rfl) h
  · obtain rfl := Option.some.inj h
    exact ⟨[], .none, rfl⟩

/-- No byte that may follow a number goes on with it. -/
theorem Stops.head {rest : Bytes} (h : Stops rest) :
    ∀ b ∈ rest.head?, isDigit b = false ∧ b ≠ 46 ∧ b ≠ 69 ∧ b ≠ 101 := by
  have all : stops.all (fun b => isDigit b = false ∧ b ≠ 46 ∧ b ≠ 69 ∧ b ≠ 101) = true := by
    decide
  exact fun b hb => of_decide_eq_true (List.all_eq_true.mp all b (h b hb))

theorem skipMinus_append {sign whole : Bytes} (rest : Bytes) (hsign : sign = [] ∨ sign = [45])
    (hwhole : WholeForm whole) : skipMinus (sign ++ (whole ++ rest)) = whole ++ rest := by
  rcases hsign with rfl | rfl
  · rw [List.nil_append, skipMinus]
    intro text htext
    -- Without a minus the first byte is a digit.
    rcases hwhole with rfl | ⟨⟨hne, hdigits⟩, -⟩
    · cases htext
    · obtain ⟨b, t, rfl⟩ := List.exists_cons_of_ne_nil hne
      cases htext
      exact absurd (hdigits 45 List.mem_cons_self) (by decide)
  · rfl

theorem skipNumber_append {t rest : Bytes} (h : NumberForm t) (hrest : Stops rest) :
    skipNumber (t ++ rest) = some rest := by
  obtain @⟨sign, whole, fraction, exponent, hsign, hwhole, hfraction, hexponent⟩ := h
  have hstop := hrest.head
  have hexponent' := skipExponent_append hexponent (fun b hb => (hstop b hb).1)
    (fun b hb => (hstop b hb).2.2)
  -- Each part is followed by the mark of a later one, or by what follows the number.
  have hafter : ∀ b ∈ (exponent ++ rest).head?, isDigit b = false ∧ b ≠ 46 := by
    cases hexponent with
    | none => exact fun b hb => ⟨(hstop b hb).1, (hstop b hb).2.1⟩
    | some hmark =>
      refine forall_head_cons ?_ _
      rcases hmark with rfl | rfl <;> decide
  have hfraction' := skipFraction_append hfraction (fun b hb => (hafter b hb).1)
    (fun b hb => (hafter b hb).2)
  have hpoint : ∀ b ∈ (fraction ++ (exponent ++ rest)).head?, isDigit b = false := by
    cases hfraction with
    | none => exact fun b hb => (hafter b hb).1
    | some hdigits => exact forall_head_cons (by decide) _
  have hwhole' := skipWhole_append hwhole hpoint
  rw [List.append_assoc, List.append_assoc, List.append_assoc, skipNumber,
    skipMinus_append _ hsign hwhole, hwhole', Option.bind_eq_bind, Option.bind_some, hfraction',
    Option.bind_some, hexponent']

theorem exists_minus (text : Bytes) :
    ∃ sign, (sign = [] ∨ sign = [45]) ∧ text = sign ++ skipMinus text := by
  unfold skipMinus
  split
  · exact ⟨[45], .inr rfl, rfl⟩
  · exact ⟨[], .inl rfl, rfl⟩

theorem exists_numberForm {text rest : Bytes} (h : skipNumber text = some rest) :
    ∃ t, NumberForm t ∧ text = t ++ rest := by
  simp only [skipNumber, Option.bind_eq_bind, Option.bind_eq_some_iff] at h
  obtain ⟨afterWhole, hwhole, afterFraction, hfraction, hexponent⟩ := h
  obtain ⟨sign, hsign, htext⟩ := exists_minus text
  obtain ⟨whole, hwholeForm, hafterSign⟩ := exists_wholeForm hwhole
  obtain ⟨fraction, hfractionForm, rfl⟩ := exists_fractionForm hfraction
  obtain ⟨exponent, hexponentForm, rfl⟩ := exists_exponentForm hexponent
  refine ⟨_, .intro hsign hwholeForm hfractionForm hexponentForm, ?_⟩
  rw [htext, hafterSign]
  simp only [List.append_assoc]

/-! ### Keys and entries -/

theorem skipKey_append {f : Frame} {key k text : Bytes} (h : KeyForm f key k)
    (htext : ∀ b ∈ text.head?, b ∉ blanks) :
    skipKey f (k ++ text) = some (key, text) := by
  cases h with
  | array ha => rw [skipKey, dropBlanks_append ha htext]
  | @object a t b c ha hkey hb hc =>
    have hquote : (34 : UInt8) ∉ blanks := by decide
    have hcolon : (58 : UInt8) ∉ blanks := by decide
    have hbefore := before_append (34 :: t) (b ++ 58 :: (c ++ text))
    rw [List.cons_append] at hbefore
    simp only [List.append_assoc, List.cons_append, skipKey, dropBlanks_append_cons ha hquote,
      skipString_append hkey, Option.bind_eq_bind, Option.bind_some,
      dropBlanks_append_cons hb hcolon, dropBlanks_append hc htext, hbefore]

theorem exists_keyForm {f : Frame} {text key rest : Bytes}
    (h : skipKey f text = some (key, rest)) : ∃ k, KeyForm f key k ∧ text = k ++ rest := by
  cases f with
  | array =>
    obtain ⟨rfl, rfl⟩ := Prod.mk.inj (Option.some.inj h)
    obtain ⟨a, ha, htext⟩ := exists_blanks text
    exact ⟨a, .array ha, htext⟩
  | object =>
    obtain ⟨a, ha, htext⟩ := exists_blanks text
    rw [skipKey] at h
    split at h
    · next afterQuote hquote =>
      obtain ⟨afterKey, hstring, h⟩ := Option.bind_eq_some_iff.mp h
      obtain ⟨t, ht, rfl⟩ := exists_stringForm hstring
      obtain ⟨b, hb, hafterKey⟩ := exists_blanks afterKey
      split at h
      · next afterColon hcolon =>
        obtain ⟨hkey, rfl⟩ := Prod.mk.inj (Option.some.inj h)
        obtain ⟨c, hc, hafterColon⟩ := exists_blanks afterColon
        rw [← List.cons_append, before_append] at hkey
        obtain rfl := hkey
        refine ⟨_, .object ha ht hb hc, ?_⟩
        rw [htext, hquote, hafterKey, hcolon]
        simp only [List.cons_append, List.append_assoc, List.append_cancel_left_eq]
        rw [← hafterColon]
      · cases h
    · cases h

/-- A value is passed over, whatever it is that may follow it. -/
def Skips (skip : Bytes → Option Bytes) (t : Bytes) : Prop :=
  ∀ rest, Stops rest → skip (t ++ rest) = some rest

/-- After an entry stands a comma or the end of the container. -/
def Ends (f : Frame) (mark : UInt8) : Prop :=
  mark = 44 ∨ mark = f.closing

theorem Ends.stops {f : Frame} {mark : UInt8} (h : Ends f mark) {b : Bytes} (hb : Blanks b)
    (rest : Bytes) : Stops (b ++ mark :: rest) := by
  cases b with
  | nil =>
    refine forall_head_cons ?_ rest
    rcases h with rfl | rfl
    · decide
    · cases f <;> decide
  | cons x b =>
    exact forall_head_cons (List.mem_append_left [44, 93, 125] (hb x List.mem_cons_self)) _

theorem Ends.dropBlanks {f : Frame} {mark : UInt8} (h : Ends f mark) {b : Bytes} (hb : Blanks b)
    (rest : Bytes) : dropBlanks (b ++ mark :: rest) = mark :: rest := by
  refine dropBlanks_append_cons hb ?_ rest
  rcases h with rfl | rfl
  · decide
  · cases f <;> decide

section

variable {skip : Bytes → Option Bytes} {f : Frame}

/-- An entry is found, and what stands after it tells how it goes on. -/
theorem skipEntries_entry {e : Entry} {k b : Bytes} {mark : UInt8} (hkey : KeyForm f e.key k)
    (hstarts : Starts e.value) (hskips : Skips skip e.value) (hb : Blanks b)
    (hmark : Ends f mark) (fuel : Nat) (rest : Bytes) :
    skipEntries skip f (fuel + 1) (k ++ (e.value ++ (b ++ mark :: rest)))
      = if mark = 44 then
          (skipEntries skip f fuel rest).map fun found => (e :: found.1, found.2)
        else some ([e], rest) := by
  have hstart := skipKey_append hkey (hstarts.head (b ++ mark :: rest))
  have hvalue := hskips _ (hmark.stops hb rest)
  simp only [skipEntries, hstart, Option.bind_eq_bind, Option.bind_some, hvalue, before_append,
    hmark.dropBlanks hb]
  by_cases hcomma : mark = 44
  · rw [if_pos hcomma, if_pos hcomma]
    cases skipEntries skip f fuel rest <;> rfl
  · rw [if_neg hcomma, if_neg hcomma, if_pos (hmark.resolve_left hcomma)]

/-- The entries up to the end of a container are found, if there are any. -/
theorem skipEntries_append {entries : List Entry} {t : Bytes} (h : EntriesForm f entries t)
    (hne : entries ≠ []) (hstarts : ∀ e ∈ entries, Starts e.value)
    (hskips : ∀ e ∈ entries, Skips skip e.value) {fuel : Nat} (hfuel : entries.length ≤ fuel)
    (rest : Bytes) :
    skipEntries skip f fuel (t ++ f.closing :: rest) = some (entries, rest) := by
  induction h generalizing fuel with
  | empty => exact absurd rfl hne
  | @last e k b hkey hb =>
    obtain ⟨fuel, rfl⟩ := Nat.exists_eq_add_of_le' hfuel
    have hclosing : f.closing ≠ 44 := by cases f <;> decide
    show skipEntries skip f (fuel + 1) _ = _
    rw [List.append_assoc, List.append_assoc,
      skipEntries_entry hkey (hstarts e List.mem_cons_self) (hskips e List.mem_cons_self) hb
        (.inr rfl), if_neg hclosing]
  | @next e e' entries k b t hkey hb _ ih =>
    cases fuel with
    | zero => exact absurd hfuel (Nat.not_succ_le_zero _)
    | succ fuel =>
      have hmore := ih (List.cons_ne_nil e' entries)
        (fun e he => hstarts e (List.mem_cons_of_mem _ he))
        (fun e he => hskips e (List.mem_cons_of_mem _ he)) (Nat.le_of_succ_le_succ hfuel)
      rw [List.append_assoc, List.append_assoc, List.append_assoc, List.cons_append,
        skipEntries_entry hkey (hstarts e List.mem_cons_self) (hskips e List.mem_cons_self) hb
          (.inl rfl), if_pos rfl, hmore]
      rfl

theorem exists_entriesForm {P : Bytes → Prop}
    (hskip : ∀ {text rest}, skip text = some rest → ∃ t, P t ∧ text = t ++ rest)
    {fuel : Nat} {text rest : Bytes} {entries : List Entry}
    (h : skipEntries skip f fuel text = some (entries, rest)) :
    entries ≠ [] ∧ ∃ t, EntriesForm f entries t ∧ (∀ e ∈ entries, P e.value)
      ∧ text = t ++ f.closing :: rest := by
  induction fuel generalizing text entries with
  | zero => cases h
  | succ fuel ih =>
    rw [skipEntries] at h
    obtain ⟨⟨key, start⟩, hkey, hafterKey⟩ := Option.bind_eq_some_iff.mp h
    obtain ⟨afterValue, hvalue, hrest⟩ := Option.bind_eq_some_iff.mp hafterKey
    clear h hafterKey
    obtain ⟨k, hk, rfl⟩ := exists_keyForm hkey
    obtain ⟨t, ht, rfl⟩ := hskip hvalue
    obtain ⟨b, hb, hafterValue⟩ := exists_blanks afterValue
    rw [before_append] at hrest
    have hvalues : ∀ {entries : List Entry}, (∀ e ∈ entries, P e.value) →
        ∀ e ∈ (⟨key, t⟩ :: entries : List Entry), P e.value := by
      rintro entries hentries e he
      rcases List.mem_cons.mp he with rfl | he
      · exact ht
      · exact hentries e he
    dsimp only at hrest
    split at hrest
    · cases hrest
    · next mark afterMark hmark =>
      rw [hmark] at hafterValue
      subst hafterValue
      by_cases hcomma : mark = 44
      · subst hcomma
        rw [if_pos rfl] at hrest
        obtain ⟨⟨more, afterMore⟩, hmore, hpair⟩ := Option.bind_eq_some_iff.mp hrest
        obtain ⟨rfl, rfl⟩ := Prod.mk.inj (Option.some.inj hpair)
        obtain ⟨hne, t', hform, hmoreValues, rfl⟩ := ih hmore
        obtain ⟨e', more, rfl⟩ := List.exists_cons_of_ne_nil hne
        refine ⟨List.cons_ne_nil _ _, _, .next hk hb hform, hvalues hmoreValues, ?_⟩
        simp only [List.append_assoc, List.cons_append]
      · rw [if_neg hcomma] at hrest
        obtain ⟨rfl, hpair⟩ := Option.ite_none_right_eq_some.mp hrest
        obtain ⟨rfl, rfl⟩ := Prod.mk.inj (Option.some.inj hpair)
        refine ⟨List.cons_ne_nil _ _, _, .last hk hb, hvalues (by simp), ?_⟩
        simp only [List.append_assoc]

/-- Every entry but the first has a comma before it. -/
theorem EntriesForm.length_le {entries : List Entry} {t : Bytes} (h : EntriesForm f entries t) :
    entries.length ≤ t.length + 1 := by
  induction h with
  | empty => exact Nat.zero_le _
  | last => exact Nat.succ_le_succ (Nat.zero_le _)
  | next =>
    simp only [List.length_append, List.length_cons] at *
    omega

/-- A value is a part of the text it stands in. -/
theorem EntriesForm.length_value_le {entries : List Entry} {t : Bytes}
    (h : EntriesForm f entries t) : ∀ e ∈ entries, e.value.length ≤ t.length := by
  induction h with
  | empty => exact nofun
  | last =>
    intro e he
    obtain rfl := List.mem_singleton.mp he
    simp only [List.length_append]
    omega
  | next _ _ _ ih =>
    intro e he
    simp only [List.length_append, List.length_cons]
    rcases List.mem_cons.mp he with rfl | he
    · omega
    · have := ih e he
      omega

/-- Before the first entry of a container nothing ends it. -/
theorem EntriesForm.head_dropBlanks {entries : List Entry} {t : Bytes}
    (h : EntriesForm f entries t) (hne : entries ≠ [])
    (hstarts : ∀ e ∈ entries, Starts e.value) (rest : Bytes) :
    ∃ b t', dropBlanks (t ++ rest) = b :: t' ∧ b ≠ f.closing := by
  have hfirst : ∀ {e : Entry} {k t' : Bytes}, KeyForm f e.key k → Starts e.value →
      ∃ b t'', dropBlanks (k ++ (e.value ++ t')) = b :: t'' ∧ b ≠ f.closing := by
    intro e k t' hkey hstart
    have hhead := hstart.head t'
    generalize e.key = key at hkey
    cases hkey with
    | array ha =>
      rw [dropBlanks_append ha hhead]
      obtain ⟨b, t, hvalue, hb⟩ := hstart
      refine ⟨b, t ++ t', by rw [hvalue]; rfl, ?_⟩
      rintro rfl
      exact hb (by decide)
    | object ha =>
      rw [List.append_assoc, List.cons_append, List.cons_append,
        dropBlanks_append_cons ha (by decide)]
      exact ⟨_, _, rfl, by decide⟩
  cases h with
  | empty => exact absurd rfl hne
  | last hkey =>
    rw [List.append_assoc, List.append_assoc]
    exact hfirst hkey (hstarts _ List.mem_cons_self)
  | next hkey =>
    rw [List.append_assoc, List.append_assoc]
    exact hfirst hkey (hstarts _ List.mem_cons_self)

theorem skipFrame_append {entries : List Entry} {t : Bytes} (h : EntriesForm f entries t)
    (hstarts : ∀ e ∈ entries, Starts e.value) (hskips : ∀ e ∈ entries, Skips skip e.value)
    (rest : Bytes) : skipFrame skip f (t ++ f.closing :: rest) = some (entries, rest) := by
  by_cases hne : entries = []
  · subst hne
    cases h with
    | empty ha =>
      have hend : Ends f f.closing := .inr rfl
      simp only [skipFrame, hend.dropBlanks ha, if_true]
  · obtain ⟨b, t', hdrop, hb⟩ := h.head_dropBlanks hne hstarts (f.closing :: rest)
    have hfuel : entries.length ≤ (t ++ f.closing :: rest).length := by
      have hlength := h.length_le
      rw [List.length_append, List.length_cons]
      omega
    simp only [skipFrame, hdrop, if_neg hb]
    exact skipEntries_append h hne hstarts hskips hfuel rest

theorem exists_frame {P : Bytes → Prop}
    (hskip : ∀ {text rest}, skip text = some rest → ∃ t, P t ∧ text = t ++ rest)
    {text rest : Bytes} {entries : List Entry}
    (h : skipFrame skip f text = some (entries, rest)) :
    ∃ t, EntriesForm f entries t ∧ (∀ e ∈ entries, P e.value)
      ∧ text = t ++ f.closing :: rest := by
  obtain ⟨a, ha, htext⟩ := exists_blanks text
  rw [skipFrame] at h
  cases hdrop : dropBlanks text with
  | nil =>
    rw [hdrop] at h
    cases h
  | cons b afterMark =>
    rw [hdrop] at h
    dsimp only at h
    by_cases hend : b = f.closing
    · subst hend
      rw [if_pos rfl] at h
      obtain ⟨rfl, rfl⟩ := Prod.mk.inj (Option.some.inj h)
      exact ⟨a, .empty ha, fun e he => absurd he List.not_mem_nil, hdrop ▸ htext⟩
    · rw [if_neg hend] at h
      exact (exists_entriesForm hskip h).2

end

/-! ### Values -/

theorem opened?_eq_some_iff {b : UInt8} {f : Frame} :
    Frame.opened? b = some f ↔ b = f.opening := by
  constructor
  · intro h
    have hopening := List.find?_some h
    exact (of_decide_eq_true hopening).symm
  · rintro rfl
    cases f <;> rfl

/-- A number starts with a minus or a digit. -/
theorem NumberForm.head {t : Bytes} (h : NumberForm t) :
    ∃ b t', t = b :: t' ∧ (b = 45 ∨ isDigit b = true) := by
  obtain ⟨hsign, hwhole, -, -⟩ := h
  rcases hsign with rfl | rfl
  · rcases hwhole with rfl | ⟨⟨hne, hdigits⟩, -⟩
    · exact ⟨48, _, rfl, .inr (by decide)⟩
    · obtain ⟨b, t, rfl⟩ := List.exists_cons_of_ne_nil hne
      exact ⟨b, _, rfl, .inr (hdigits b List.mem_cons_self)⟩
  · exact ⟨45, _, rfl, .inl rfl⟩

/-- Nothing else starts like a number: no quote, no container and no word. -/
theorem notMem_of_head {b : UInt8} (h : b = 45 ∨ isDigit b = true) :
    b ∉ stops ++ [34, 91, 123, 110, 116, 102] := by
  rcases h with rfl | h
  · decide
  · have all : (stops ++ [34, 91, 123, 110, 116, 102]).all (!isDigit ·) = true := by decide
    intro hb
    have hnot := List.all_eq_true.mp all b hb
    rw [h] at hnot
    cases hnot

/-- A value is known by its first byte. -/
theorem ValueForm.starts {t : Bytes} (h : ValueForm t) : Starts t := by
  cases h with
  | word hword =>
    have all : ∀ w ∈ words, Starts w := by
      simp [words, nullText, Starts, stops, blanks]
    exact all t hword
  | number hnumber =>
    obtain ⟨b, t', ht, hb⟩ := hnumber.head
    exact ⟨b, t', ht, fun hmem => notMem_of_head hb (List.mem_append_left _ hmem)⟩
  | string => exact ⟨34, _, rfl, by decide⟩
  | @container f => exact ⟨f.opening, _, rfl, by cases f <;> decide⟩

/-- A value is passed over, with a fuel for each byte that may open a container inside it. -/
theorem skipValue_append {t : Bytes} (h : ValueForm t) {fuel : Nat} (hfuel : t.length ≤ fuel) :
    Skips (skipValue (fuel + 1)) t := by
  induction h generalizing fuel with
  | word hword =>
    intro rest _
    simp only [words, List.mem_cons, List.not_mem_nil, or_false] at hword
    rcases hword with rfl | rfl | rfl <;> rfl
  | number hnumber =>
    intro rest hrest
    have hskip := skipNumber_append hnumber hrest
    obtain ⟨b, t, rfl, hb⟩ := hnumber.head
    have hne := notMem_of_head hb
    have hframe : Frame.opened? b = none := by
      refine Option.eq_none_iff_forall_ne_some.mpr fun f hf => hne ?_
      rw [opened?_eq_some_iff.mp hf]
      cases f <;> decide
    have hword : words.find? (fun word => word.isPrefixOf (b :: (t ++ rest))) = none := by
      refine List.find?_eq_none.mpr fun word hmem hbegins => hne ?_
      obtain ⟨rest', hword⟩ := List.isPrefixOf_iff_prefix.mp hbegins
      simp only [words, List.mem_cons, List.not_mem_nil, or_false] at hmem
      rcases hmem with rfl | rfl | rfl
      all_goals
        obtain ⟨rfl, -⟩ := List.cons.inj hword
        decide
    have hquote : b ≠ 34 := by
      rintro rfl
      exact hne (by decide)
    rw [List.cons_append] at hskip ⊢
    rw [skipValue, if_neg hquote, hframe]
    dsimp only
    rw [hword, hskip]
  | string hstring =>
    intro rest _
    rw [List.cons_append, skipValue, if_pos rfl, skipString_append hstring]
  | @container f entries t hentries hvalues ih =>
    intro rest _
    rw [List.length_cons, List.length_append] at hfuel
    cases fuel with
    | zero => exact absurd hfuel (Nat.not_succ_le_zero _)
    | succ fuel =>
      have hquote : f.opening ≠ 34 := by cases f <;> decide
      have hskips : ∀ e ∈ entries, Skips (skipValue (fuel + 1)) e.value := by
        intro e he
        have hlength := hentries.length_value_le e he
        exact ih e he (by omega)
      have hframe := skipFrame_append hentries (fun e he => (hvalues e he).starts) hskips rest
      rw [List.cons_append, List.append_assoc, List.singleton_append, skipValue, if_neg hquote,
        opened?_eq_some_iff.mpr rfl]
      dsimp only
      rw [hframe]
      rfl

theorem exists_valueForm {fuel : Nat} {text rest : Bytes} (h : skipValue fuel text = some rest) :
    ∃ t, ValueForm t ∧ text = t ++ rest := by
  induction fuel generalizing text rest with
  | zero => cases h
  | succ fuel ih =>
    cases text with
    | nil => cases h
    | cons b text =>
      rw [skipValue] at h
      by_cases hquote : b = 34
      · subst hquote
        rw [if_pos rfl] at h
        obtain ⟨t, ht, rfl⟩ := exists_stringForm h
        exact ⟨_, .string ht, rfl⟩
      · rw [if_neg hquote] at h
        cases hframe : Frame.opened? b with
        | some f =>
          obtain rfl := opened?_eq_some_iff.mp hframe
          rw [hframe] at h
          obtain ⟨⟨entries, afterFrame⟩, hentries, rfl⟩ := Option.map_eq_some_iff.mp h
          obtain ⟨t, ht, hvalues, rfl⟩ := exists_frame ih hentries
          refine ⟨_, .container ht hvalues, ?_⟩
          simp only [List.cons_append, List.append_assoc, List.nil_append]
        | none =>
          rw [hframe] at h
          dsimp only at h
          split at h
          · next word hfind =>
            obtain rfl := Option.some.inj h
            have hbegins := List.find?_some hfind
            obtain ⟨t, ht⟩ := List.isPrefixOf_iff_prefix.mp hbegins
            refine ⟨word, .word (List.mem_of_find?_eq_some hfind), ?_⟩
            rw [← ht, List.drop_left]
          · obtain ⟨t, ht, htext⟩ := exists_numberForm h
            exact ⟨t, .number ht, htext⟩

/-! ### Texts -/

/-- The outermost container of a text is found exactly if the text has the form of one. -/
theorem outline_eq_some_iff {text : Bytes} {f : Frame} {entries : List Entry} :
    outline text = some (f, entries) ↔ Outlined f entries text := by
  constructor
  · intro h
    obtain ⟨a, ha, htext⟩ := exists_blanks text
    rw [outline] at h
    cases hdrop : dropBlanks text with
    | nil =>
      rw [hdrop] at h
      cases h
    | cons b inside =>
      rw [hdrop] at h
      obtain ⟨f', hframe, hinside⟩ := Option.bind_eq_some_iff.mp h
      obtain ⟨⟨entries', after⟩, hentries, hend⟩ := Option.bind_eq_some_iff.mp hinside
      clear h hinside
      obtain ⟨hblank, hpair⟩ := Option.ite_none_right_eq_some.mp hend
      obtain ⟨rfl, rfl⟩ := Prod.mk.inj (Option.some.inj hpair)
      obtain rfl := opened?_eq_some_iff.mp hframe
      obtain ⟨t, ht, hvalues, rfl⟩ := exists_frame exists_valueForm hentries
      obtain ⟨b, hb, hafter⟩ := exists_blanks after
      rw [List.isEmpty_iff.mp hblank, List.append_nil] at hafter
      subst hafter
      rw [htext, hdrop]
      exact .intro ha ht hvalues hb
  · rintro @⟨a, t, b, ha, hentries, hvalues, hb⟩
    have hopening : dropBlanks (a ++ f.opening :: (t ++ f.closing :: b))
        = f.opening :: (t ++ f.closing :: b) := by
      refine dropBlanks_append_cons ha ?_ _
      cases f <;> decide
    obtain ⟨fuel, hfuel⟩ :
        ∃ n, (a ++ f.opening :: (t ++ f.closing :: b)).length = n + 1 ∧ t.length ≤ n := by
      refine ⟨a.length + (t ++ f.closing :: b).length, ?_, ?_⟩
      · rw [List.length_append, List.length_cons]
        rfl
      · rw [List.length_append]
        omega
    have hframe := skipFrame_append hentries (fun e he => (hvalues e he).starts)
      (fun e he => skipValue_append (hvalues e he)
        (Nat.le_trans (hentries.length_value_le e he) hfuel.2)) b
    have hend : dropBlanks b = [] := by
      have hnothing : ∀ x ∈ ([] : Bytes).head?, x ∉ blanks := by
        intro x hx
        cases hx
      have hdrop := dropBlanks_append hb hnothing
      rwa [List.append_nil] at hdrop
    simp only [outline, hopening, opened?_eq_some_iff.mpr rfl, hfuel.1, hframe, hend,
      Option.bind_eq_bind, Option.bind_some, List.isEmpty_nil, if_true]

/-! ### Records -/

/-- The text is one of a record whose fields have the given keys, with the texts of its members. Of
an object every key can be read and none of the given ones is repeated; of a list the items are the
fields, and there are no more than those. -/
inductive Fields (keys : List String) : Bytes → List (String × Bytes) → Prop
  | object {text : Bytes} {entries : List Entry} {members : List (String × Bytes)}
      (houtlined : Outlined .object entries text)
      (hmembers : List.Forall₂
        (fun m e => readBytes 0 e.key = some (.str m.1) ∧ m.2 = e.value) members entries)
      (hunique : ∀ key ∈ keys, (members.map Prod.fst).count key ≤ 1) : Fields keys text members
  | list {text : Bytes} {entries : List Entry} (houtlined : Outlined .array entries text)
      (hfew : entries.length ≤ keys.length) :
      Fields keys text (keys.zip (entries.map Entry.value))

theorem toText_eq_some_iff {j : Json} {text : String} : toText j = some text ↔ j = .str text := by
  cases j <;> simp [toText]

/-- A key that can be read is kept, with the text of its value. -/
theorem readMember_eq_some_iff {e : Entry} {m : String × Bytes} :
    (do return (← toText (← readBytes 0 e.key), e.value)) = some m
      ↔ readBytes 0 e.key = some (.str m.1) ∧ m.2 = e.value := by
  obtain ⟨key, value⟩ := m
  simp only [Option.bind_eq_bind, Option.bind_eq_some_iff, Option.pure_def, Option.some.injEq,
    Prod.mk.injEq, toText_eq_some_iff]
  constructor
  · rintro ⟨_, hread, _, rfl, rfl, rfl⟩
    exact ⟨hread, rfl⟩
  · rintro ⟨hread, rfl⟩
    exact ⟨_, hread, _, rfl, rfl, rfl⟩

/-- The members of a record are found exactly in its texts. -/
theorem readRecord_eq_some_iff {keys : List String} {text : Bytes}
    {members : List (String × Bytes)} :
    readRecord keys text = some members ↔ Fields keys text members := by
  have hunique : ∀ members : List (String × Bytes),
      ¬ (keys.any fun key => 1 < (members.map Prod.fst).count key) = true
        ↔ ∀ key ∈ keys, (members.map Prod.fst).count key ≤ 1 := by
    simp
  constructor
  · intro h
    obtain ⟨⟨f, entries⟩, houtline, hrecord⟩ := Option.bind_eq_some_iff.mp h
    have houtlined := outline_eq_some_iff.mp houtline
    cases f with
    | array =>
      obtain ⟨hfew, hzip⟩ := Option.ite_none_right_eq_some.mp hrecord
      obtain rfl := Option.some.inj hzip
      exact .list houtlined hfew
    | object =>
      obtain ⟨members', hmembers, hkept⟩ := Option.bind_eq_some_iff.mp hrecord
      obtain ⟨honce, hsame⟩ := Option.ite_none_left_eq_some.mp hkept
      obtain rfl := Option.some.inj hsame
      refine .object houtlined ?_ ((hunique _).mp honce)
      exact (mapM_eq_some_iff.mp hmembers).imp fun _ _ => readMember_eq_some_iff.mp
  · intro h
    cases h with
    | list houtlined hfew =>
      exact Option.bind_eq_some_iff.mpr ⟨_, outline_eq_some_iff.mpr houtlined, if_pos hfew⟩
    | object houtlined hmembers honce =>
      have hread := mapM_eq_some_iff.mpr (hmembers.imp fun _ _ => readMember_eq_some_iff.mpr)
      exact Option.bind_eq_some_iff.mpr ⟨_, outline_eq_some_iff.mpr houtlined,
        Option.bind_eq_some_iff.mpr ⟨_, hread, if_neg ((hunique _).mpr honce)⟩⟩

/-- The keys that matter have one member at most. -/
theorem Fields.count_le {keys : List String} {text : Bytes} {members : List (String × Bytes)}
    (h : Fields keys text members) (hkeys : keys.Nodup) :
    ∀ key ∈ keys, (members.map Prod.fst).count key ≤ 1 := by
  cases h with
  | object _ _ hunique => exact hunique
  | @list entries _ hfew =>
    have hbegins : ∀ (ks : List String) (vs : List Bytes),
        ((ks.zip vs).map Prod.fst).Sublist ks := by
      intro ks
      induction ks with
      | nil => exact fun _ => List.Sublist.refl _
      | cons k ks ih =>
        rintro (_ | ⟨v, vs⟩)
        · exact List.nil_sublist _
        · exact (ih vs).cons_cons k
    exact fun key _ =>
      (List.nodup_iff_count.mp ((hbegins keys _).nodup hkeys)) key

/-- Where a key has one member at most, that member is found. -/
theorem lookup_eq_some_iff_mem {key : String} {value : Bytes} {members : List (String × Bytes)}
    (hcount : (members.map Prod.fst).count key ≤ 1) :
    members.lookup key = some value ↔ (key, value) ∈ members := by
  rw [List.lookup_eq_some_iff]
  constructor
  · rintro ⟨front, back, rfl, -⟩
    exact List.mem_append_right front List.mem_cons_self
  · intro h
    obtain ⟨front, back, rfl⟩ := List.append_of_mem h
    refine ⟨front, back, rfl, fun m hm => bne_iff_ne.mpr ?_⟩
    rintro rfl
    have hfront := List.count_pos_iff.mpr (List.mem_map_of_mem (f := Prod.fst) hm)
    rw [List.map_append, List.count_append, List.map_cons, List.count_cons_self] at hcount
    omega

theorem Outlined.hasForm {f : Frame} {entries : List Entry} {text : Bytes}
    (h : Outlined f entries text) : HasForm text := by
  obtain ⟨ha, hentries, hvalues, hb⟩ := h
  have hform := HasForm.intro ha (.container hentries hvalues) hb
  simp only [List.cons_append, List.append_assoc, List.nil_append] at hform
  exact hform

theorem Fields.hasForm {keys : List String} {text : Bytes} {members : List (String × Bytes)}
    (h : Fields keys text members) : HasForm text := by
  cases h with
  | object houtlined => exact houtlined.hasForm
  | list houtlined => exact houtlined.hasForm

end SafeOps.Json
