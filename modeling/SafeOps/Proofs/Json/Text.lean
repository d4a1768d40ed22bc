import SafeOps.Json.Reader
import SafeOps.Proofs.Json.Codec

/-!
# `SafeOps.Proofs.Json.Text`: objects of plain texts survive being rendered

What goes over the wire is text. The reader of JSON is strict and has to undo escapes, but the
values of this library are written without any: keys, digits and marks are `Plain`, so that a
string is rendered as its characters between quotes (`toList_renderString`) and read until the
closing quote (`readString_of_plain`).

`readMembers_of_plain` is the induction over the members of an object, with the fuel counting
them; `read_render` is the round trip.
-/

set_option autoImplicit false

namespace SafeOps.Json

/-- A character that stands for itself inside a string. -/
def PlainChar (c : Char) : Prop :=
  32 ≤ c.toNat ∧ c ≠ '"' ∧ c ≠ '\\'

instance (c : Char) : Decidable (PlainChar c) :=
  inferInstanceAs (Decidable (_ ∧ _ ∧ _))

/-- A text that is rendered as it is. -/
def Plain (s : String) : Prop :=
  ∀ c ∈ s.toList, PlainChar c

instance (s : String) : Decidable (Plain s) :=
  List.decidableBAll PlainChar s.toList

/-! ### Values of the chain -/

theorem plain_append {s t : String} (hs : Plain s) (ht : Plain t) : Plain (s ++ t) := by
  intro c hc
  rw [String.toList_append, List.mem_append] at hc
  exact hc.elim (hs c) (ht c)

theorem plain_render (bs : Bytes) : Plain (Hex.render bs) := by
  refine plain_append (by decide) fun c hc => ?_
  rw [String.toList_ofList] at hc
  obtain ⟨d, hd, rfl⟩ := Hex.exists_digit_of_mem_encode hc
  have all : ∀ k ∈ List.range 16, PlainChar (Hex.digit k) := by decide
  exact all d (List.mem_range.mpr hd)

theorem plain_hex {width : Nat} (x : BitVec width) : Plain (Quantity.hex x) := by
  refine plain_append (by decide) fun c hc => ?_
  rw [Text.hexDigits, String.toList_ofList] at hc
  obtain ⟨d, hd, rfl⟩ := Quantity.exists_digitChar_of_mem_toDigits (by decide) hc
  have all : ∀ k ∈ List.range 16, PlainChar (Nat.digitChar k) := by decide
  exact all d (List.mem_range.mpr hd)

/-! ### Strings -/

theorem escapeChar_of_plain {c : Char} (h : PlainChar c) : escapeChar c = [c] := by
  obtain ⟨hcode, hquote, hslash⟩ := h
  have hcontrol : ∀ d : Char, d.toNat < 32 → c ≠ d := by
    rintro d hd rfl
    omega
  rw [escapeChar, if_neg hquote, if_neg hslash, if_neg (hcontrol '\n' (by decide)),
    if_neg (hcontrol '\r' (by decide)), if_neg (hcontrol '\t' (by decide)), if_neg (by omega),
    if_neg (by omega), if_neg (by omega)]

theorem toList_renderString {s : String} (h : Plain s) :
    (renderString s).toList = '"' :: (s.toList ++ ['"']) := by
  have hplain : ∀ cs : List Char, (∀ c ∈ cs, PlainChar c) → cs.flatMap escapeChar = cs := by
    intro cs hcs
    induction cs with
    | nil => rfl
    | cons c cs ih =>
      rw [List.flatMap_cons, escapeChar_of_plain (hcs c List.mem_cons_self),
        ih fun d hd => hcs d (List.mem_cons_of_mem c hd)]
      rfl
  rw [renderString, hplain s.toList h]
  simp

/-- Before a plain character the reader is in none of its special cases. -/
theorem readString_cons {c : Char} (h : PlainChar c) (rest acc : List Char) :
    readString (c :: rest) acc none = readString rest (c :: acc) none := by
  obtain ⟨hcode, hquote, hslash⟩ := h
  -- The cases before that of an ordinary character are about quotes and escapes.
  rw [readString, if_neg (by omega)]
  · rintro a b d e tail rfl -
    exact hslash rfl
  · rintro d tail rfl -
    exact hslash rfl
  · exact hquote

theorem readString_of_plain {cs : List Char} (h : ∀ c ∈ cs, PlainChar c) (rest acc : List Char) :
    readString (cs ++ '"' :: rest) acc none = some (String.ofList (acc.reverse ++ cs), rest) := by
  induction cs generalizing acc with
  | nil =>
    rw [List.append_nil]
    rfl
  | cons c cs ih =>
    rw [List.cons_append, readString_cons (h c List.mem_cons_self),
      ih (fun d hd => h d (List.mem_cons_of_mem c hd)), List.reverse_cons, List.append_assoc]
    rfl

/-! ### Objects -/

/-- Members with plain keys, whose values are plain texts. -/
def PlainMembers (members : List (String × Json)) : Prop :=
  ∀ m ∈ members, Plain m.1 ∧ ∃ s, m.2 = .str s ∧ Plain s

theorem toList_joinCommas (parts : List String) :
    (joinCommas parts).toList = List.intercalate [','] (parts.map String.toList) :=
  String.toList_intercalate

/-- The text of a member: its key and its value between quotes, with a colon between them. -/
theorem readMember_of_plain {k s : String} (hk : Plain k) (hs : Plain s) (rest : List Char) :
    (renderString k ++ ":" ++ render (.str s)).toList ++ rest
      = '"' :: (k.toList ++ '"' :: ':' :: '"' :: (s.toList ++ '"' :: rest)) := by
  rw [String.toList_append, String.toList_append, toList_renderString hk]
  show _ ++ (renderString s).toList ++ rest = _
  rw [toList_renderString hs]
  simp

theorem readValue_of_plain {s : String} (hs : Plain s) (fuel depth : Nat) (rest : List Char) :
    readValue (fuel + 1) depth ('"' :: (s.toList ++ '"' :: rest)) = some (.str s, rest) := by
  have htext : String.ofList (List.reverse [] ++ s.toList) = s := String.ofList_toList
  simp only [readValue, readString_of_plain hs, htext, Option.bind_eq_bind, Option.bind_some]
  rfl

/-- Between the members of a text without blanks nothing is skipped. -/
theorem skipBlanks_mark {c : Char} (h : c ∈ ['"', ':', ',', '\x7d']) (rest : List Char) :
    skipBlanks (c :: rest) = c :: rest := by
  simp only [List.mem_cons, List.not_mem_nil, or_false] at h
  rcases h with rfl | rfl | rfl | rfl <;> rfl

/-- A member is read, with more to come. -/
theorem readMembers_comma {k s : String} (hk : Plain k) (hs : Plain s) (fuel depth : Nat)
    (rest : List Char) (acc : List (String × Json)) :
    readMembers (fuel + 2) depth
        ('"' :: (k.toList ++ '"' :: ':' :: '"' :: (s.toList ++ '"' :: ',' :: rest))) acc
      = readMembers (fuel + 1) depth rest ((k, .str s) :: acc) := by
  have htext : String.ofList (List.reverse [] ++ k.toList) = k := String.ofList_toList
  rw [readMembers, skipBlanks_mark (by decide)]
  simp only [readString_of_plain hk, htext, Option.bind_eq_bind, Option.bind_some,
    skipBlanks_mark (c := ':') (by decide), skipBlanks_mark (c := '"') (by decide),
    readValue_of_plain hs, skipBlanks_mark (c := ',') (by decide)]

/-- A member is read, the last one. -/
theorem readMembers_close {k s : String} (hk : Plain k) (hs : Plain s) (fuel depth : Nat)
    (rest : List Char) (acc : List (String × Json)) :
    readMembers (fuel + 2) depth
        ('"' :: (k.toList ++ '"' :: ':' :: '"' :: (s.toList ++ '"' :: '\x7d' :: rest))) acc
      = some (.obj ((k, .str s) :: acc).reverse, rest) := by
  have htext : String.ofList (List.reverse [] ++ k.toList) = k := String.ofList_toList
  rw [readMembers, skipBlanks_mark (by decide)]
  simp only [readString_of_plain hk, htext, Option.bind_eq_bind, Option.bind_some,
    skipBlanks_mark (c := ':') (by decide), skipBlanks_mark (c := '"') (by decide),
    readValue_of_plain hs, skipBlanks_mark (c := '\x7d') (by decide)]

/-- The members of an object are read one after another, up to its end. -/
theorem readMembers_of_plain {members : List (String × Json)} (hne : members ≠ [])
    (h : PlainMembers members) (fuel depth : Nat) (rest : List Char)
    (acc : List (String × Json)) :
    readMembers (fuel + members.length + 1) depth
        (List.intercalate [','] ((renderMembers members).map String.toList) ++ '\x7d' :: rest) acc
      = some (.obj (acc.reverse ++ members), rest) := by
  induction members generalizing acc with
  | nil => exact absurd rfl hne
  | cons m members ih =>
    obtain ⟨k, v⟩ := m
    obtain ⟨hk, s, hv, hs⟩ := h (k, v) List.mem_cons_self
    obtain rfl : v = .str s := hv
    have hrest : PlainMembers members := fun m hm => h m (List.mem_cons_of_mem _ hm)
    -- A comma and more members follow, or the end of the object.
    cases members with
    | nil =>
      rw [renderMembers, renderMembers, List.map_cons, List.map_nil, List.intercalate_singleton,
        readMember_of_plain hk hs]
      show readMembers (fuel + 2) depth _ acc = _
      rw [readMembers_close hk hs, List.reverse_cons]
    | cons m members =>
      obtain ⟨k', v'⟩ := m
      have htail := ih (List.cons_ne_nil _ _) hrest ((k, .str s) :: acc)
      rw [renderMembers, renderMembers, List.map_cons, List.map_cons,
        List.intercalate_cons_cons, List.append_assoc, List.append_assoc,
        readMember_of_plain hk hs]
      show readMembers (fuel + members.length + 1 + 2) depth _ acc = _
      rw [List.cons_append, readMembers_comma hk hs]
      show readMembers (fuel + members.length + 1 + 1) depth _ _ = _
      rw [renderMembers, List.map_cons, List.reverse_cons, List.append_assoc] at htail
      exact htail

/-- Every member takes a character at least. -/
theorem length_le_text {members : List (String × Json)} (h : PlainMembers members) :
    members.length ≤ (List.intercalate [','] ((renderMembers members).map String.toList)).length := by
  induction members with
  | nil => exact Nat.zero_le _
  | cons m members ih =>
    obtain ⟨k, v⟩ := m
    obtain ⟨hk, s, hv, hs⟩ := h (k, v) List.mem_cons_self
    obtain rfl : v = .str s := hv
    have hrest := ih fun m hm => h m (List.mem_cons_of_mem _ hm)
    have hmember := congrArg List.length (readMember_of_plain hk hs [])
    rw [List.append_nil, List.length_cons] at hmember
    cases members with
    | nil =>
      rw [renderMembers, renderMembers, List.map_cons, List.map_nil, List.intercalate_singleton,
        hmember, List.length_singleton]
      omega
    | cons m members =>
      obtain ⟨k', v'⟩ := m
      rw [renderMembers, List.map_cons] at hrest
      rw [renderMembers, renderMembers, List.map_cons, List.map_cons, List.intercalate_cons_cons,
        List.length_append, List.length_append, hmember, List.length_cons]
      omega

/-- The text of an object with members starts with the quote of a key. -/
theorem exists_text_eq {members : List (String × Json)} (hne : members ≠ [])
    (h : PlainMembers members) :
    ∃ body, List.intercalate [','] ((renderMembers members).map String.toList) = '"' :: body := by
  obtain ⟨⟨k, v⟩, rest, rfl⟩ := List.exists_cons_of_ne_nil hne
  obtain ⟨hk, s, hv, hs⟩ := h (k, v) List.mem_cons_self
  obtain rfl : v = .str s := hv
  have hmember := readMember_of_plain hk hs []
  rw [List.append_nil] at hmember
  cases rest with
  | nil =>
    rw [renderMembers, renderMembers, List.map_cons, List.map_nil, List.intercalate_singleton]
    exact ⟨_, hmember⟩
  | cons m rest =>
    obtain ⟨k', v'⟩ := m
    rw [renderMembers, renderMembers, List.map_cons, List.map_cons, List.intercalate_cons_cons,
      hmember]
    exact ⟨_, rfl⟩

/-- An object of plain texts is read back from its text. -/
theorem read_render {members : List (String × Json)} (hne : members ≠ [])
    (h : PlainMembers members) : read (render (.obj members)) = some (.obj members) := by
  have htext : (render (.obj members)).toList
      = '\x7b' :: (List.intercalate [','] ((renderMembers members).map String.toList)
          ++ ['\x7d']) := by
    rw [render, String.toList_append, String.toList_append, toList_joinCommas]
    rfl
  -- The fuel is the length of the text, which is more than the number of members.
  obtain ⟨fuel, hfuel⟩ := Nat.exists_eq_add_of_le' (length_le_text h)
  have hmembers := readMembers_of_plain hne h (fuel + 1) 126 [] []
  obtain ⟨body, hbody⟩ := exists_text_eq hne h
  have hlength : (render (.obj members)).toList.length = fuel + 1 + members.length + 1 := by
    rw [htext, List.length_cons, List.length_append, hfuel, List.length_singleton]
    omega
  have hvalue : readValue (fuel + 1 + members.length + 1 + 1) maxDepth
      ((render (.obj members)).toList) = some (.obj members, []) := by
    rw [hbody] at hmembers
    rw [htext, hbody]
    exact hmembers
  have hblanks : skipBlanks (render (.obj members)).toList = (render (.obj members)).toList := by
    rw [htext]
    rfl
  rw [read, readChars, hblanks, hlength, hvalue]
  rfl

end SafeOps.Json
