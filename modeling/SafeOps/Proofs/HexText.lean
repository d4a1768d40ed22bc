import SafeOps.Input
import SafeOps.Proofs.Failable
import SafeOps.Proofs.Hex

/-!
# `SafeOps.Proofs.HexText`: one text for each byte string

A `HexText` holds nothing but a text, and two ways lead to one: bytes are written down, or a text of
a caller is read, with any number of `0x` in front and digits of either case. `Bare` says what is
left of such a text behind its marks, without the recursion that takes them off.

`new_eq_ok_iff` is the main fact: whatever is read is the text that would have been written for the
same bytes. So a value is known by its bytes, its text is read back as the value itself, and the
digits behind the mark can always be decoded. The main statement, `canonical_new`, puts this
together for all texts and all values that were read or written (`Constructed`).
-/

set_option autoImplicit false

namespace SafeOps.HexText

/-! ### Marks in front of a text -/

/-- What is left of a text behind every `0x` in front of it. -/
structure Bare (cs rest : List Char) : Prop where
  marks : ∃ n, cs = (List.replicate n ['0', 'x']).flatten ++ rest
  bare : ¬ ['0', 'x'] <+: rest

theorem bare_stripMarks (cs : List Char) : Bare cs (stripMarks cs) := by
  induction cs using stripMarks.induct with
  | case1 rest ih =>
    obtain ⟨⟨n, hn⟩, hbare⟩ := ih
    rw [stripMarks]
    refine ⟨⟨n + 1, ?_⟩, hbare⟩
    rw [List.replicate_succ, List.flatten_cons, List.append_assoc, ← hn]
    rfl
  | case2 cs hne =>
    -- Nothing is taken off here, so there is no mark in front.
    have hstrip : stripMarks cs = cs := by
      unfold stripMarks
      split
      · next rest => exact absurd rfl (hne rest)
      · rfl
    rw [hstrip]
    refine ⟨⟨0, rfl⟩, ?_⟩
    rintro ⟨rest, rfl⟩
    exact hne rest rfl

theorem stripMarks_of_bare {cs rest : List Char} (h : Bare cs rest) : stripMarks cs = rest := by
  obtain ⟨⟨n, rfl⟩, hbare⟩ := h
  induction n with
  | zero =>
    show stripMarks rest = rest
    unfold stripMarks
    split
    · next tail => exact absurd ⟨tail, rfl⟩ hbare
    · rfl
  | succ n ih =>
    rw [List.replicate_succ, List.flatten_cons, List.append_assoc]
    exact ih

/-- Digits have no `x` among them, so a mark in front of them is the only one. -/
theorem bare_mark {digits : List Char} (h : Text.AllDigits digits) :
    Bare ('0' :: 'x' :: digits) digits := by
  refine ⟨⟨1, rfl⟩, ?_⟩
  rintro ⟨rest, rfl⟩
  obtain ⟨d, hd⟩ := h 'x' (by simp)
  have hletter := hd.asciiByte_notMem
  exact hletter (by decide)

/-! ### Values -/

/-- A value that was read or written. -/
inductive Constructed : HexText → Prop
  | read {s : String} {h : HexText} (hread : new s = .ok h) : Constructed h
  | written (bs : Bytes) : Constructed (ofBytes bs)

theorem toList_text_ofBytes (bs : Bytes) :
    (ofBytes bs).text.toList = '0' :: 'x' :: Hex.encode bs := by
  simp [ofBytes, Hex.render]

/-- The digits behind the mark are those of the bytes that were written. -/
theorem bytes_ofBytes (bs : Bytes) : (ofBytes bs).bytes = bs := by
  rw [bytes, toList_text_ofBytes]
  show (Hex.decode (Hex.encode bs)).getD [] = bs
  rw [Hex.decode_encode]
  rfl

section

variable {s : String} {rest : List Char} {h : HexText}

/-- What is read is the text that would have been written for the same bytes. -/
theorem new_eq_ok_iff (hbare : Bare s.toList rest) :
    new s = .ok h ↔ ∃ bs, Hex.decode rest = some bs ∧ h = ofBytes bs := by
  obtain rfl := stripMarks_of_bare hbare
  rw [new, mapError_eq_ok_iff]
  unfold read
  cases hdecode : Hex.decode (stripMarks s.toList) with
  | none => simp [hdecode]
  | some bs =>
    -- The digits in lowercase, which are kept, are those that are written for the bytes.
    have htext : (⟨"0x" ++ String.ofList ((stripMarks s.toList).map Char.toLower)⟩ : HexText)
        = ofBytes bs := by
      rw [Hex.decode_eq_some_iff.mp hdecode]
      rfl
    simp only [hdecode, htext, Except.ok.injEq, Option.some.injEq, exists_eq_left']
    exact eq_comm

/-- A text is read if an even number of digits is left of it. -/
theorem exists_new_iff (hbare : Bare s.toList rest) :
    (∃ h, new s = .ok h) ↔ rest.length % 2 = 0 ∧ Text.AllDigits rest := by
  rw [← Hex.exists_decode_iff]
  constructor
  · rintro ⟨h, hnew⟩
    obtain ⟨bs, hdecode, -⟩ := (new_eq_ok_iff hbare).mp hnew
    exact ⟨bs, hdecode⟩
  · rintro ⟨bs, hdecode⟩
    exact ⟨ofBytes bs, (new_eq_ok_iff hbare).mpr ⟨bs, hdecode, rfl⟩⟩

/-- A text is refused with what is left of it. -/
theorem new_of_refused (hbare : Bare s.toList rest)
    (h : ¬ (rest.length % 2 = 0 ∧ Text.AllDigits rest)) :
    new s = .error (.notHex (String.ofList rest)) := by
  obtain rfl := stripMarks_of_bare hbare
  rw [← Hex.exists_decode_iff, not_exists] at h
  simp [new, read, Option.eq_none_iff_forall_ne_some.mpr h, Except.mapError]

theorem Constructed.exists_ofBytes (hh : Constructed h) : ∃ bs, h = ofBytes bs := by
  cases hh with
  | @read s _ hread =>
    obtain ⟨bs, -, rfl⟩ := (new_eq_ok_iff (bare_stripMarks s.toList)).mp hread
    exact ⟨bs, rfl⟩
  | written bs => exact ⟨bs, rfl⟩

/-- A value is read back from its text. -/
theorem Constructed.new_text (hh : Constructed h) : new h.text = .ok h := by
  obtain ⟨bs, rfl⟩ := hh.exists_ofBytes
  have hdigits : Text.AllDigits (Hex.encode bs) :=
    (Hex.lowercase_encode bs).allDigits (Hex.lowercase_encode bs).toLower_eq
  have hbare : Bare (ofBytes bs).text.toList (Hex.encode bs) := by
    rw [toList_text_ofBytes]
    exact bare_mark hdigits
  exact (new_eq_ok_iff hbare).mpr ⟨bs, Hex.decode_encode bs, rfl⟩

/-- Values are told apart by their bytes. -/
theorem Constructed.eq_iff {h' : HexText} (hh : Constructed h) (hh' : Constructed h') :
    h = h' ↔ h.bytes = h'.bytes := by
  obtain ⟨bs, rfl⟩ := hh.exists_ofBytes
  obtain ⟨bs', rfl⟩ := hh'.exists_ofBytes
  constructor
  · intro h
    rw [h]
  · intro h
    rw [bytes_ofBytes, bytes_ofBytes] at h
    rw [h]

end

/-- Every text has something left behind its marks. It is read if that is an even number of digits,
and refused with it otherwise. What is read is the value that is written for the decoded bytes,
which holds these bytes as a mark and their lowercase digits. Every value that was read or written
is read back from its text, and two of them are the same if they have the same bytes. -/
theorem canonical_new :
    (∀ s : String, ∃ rest, Bare s.toList rest
      ∧ ((∃ h, new s = .ok h) ↔ rest.length % 2 = 0 ∧ Text.AllDigits rest)
      ∧ ((¬ ∃ h, new s = .ok h) → new s = .error (.notHex (String.ofList rest)))
      ∧ ∀ h, new s = .ok h → ∃ bs, Hex.decode rest = some bs ∧ h = ofBytes bs
        ∧ h.bytes = bs ∧ h.text = "0x" ++ String.ofList (Hex.encode bs))
    ∧ (∀ h, Constructed h → new h.text = .ok h)
    ∧ ∀ h h', Constructed h → Constructed h' → (h = h' ↔ h.bytes = h'.bytes) := by
  refine ⟨fun s => ?_, fun h hh => hh.new_text, fun h h' hh hh' => hh.eq_iff hh'⟩
  have hbare := bare_stripMarks s.toList
  refine ⟨_, hbare, exists_new_iff hbare, fun hrefused => ?_, fun h hnew => ?_⟩
  · rw [exists_new_iff hbare] at hrefused
    exact new_of_refused hbare hrefused
  · obtain ⟨bs, hdecode, rfl⟩ := (new_eq_ok_iff hbare).mp hnew
    exact ⟨bs, hdecode, rfl, bytes_ofBytes bs, rfl⟩

/-- Two marks and capitals lead to the same value as the bytes, and its text has neither. -/
theorem canonical_new_capitals :
    new "0x0xABcd" = .ok (ofBytes [0xAB, 0xCD]) ∧ (ofBytes [0xAB, 0xCD]).text = "0xabcd"
      ∧ new "0xabcd" = .ok (ofBytes [0xAB, 0xCD]) := by
  obtain ⟨hread, hback, -⟩ := canonical_new
  obtain ⟨rest, hbare, -, -, hvalue⟩ := hread "0x0xABcd"
  have hrest : rest = ['A', 'B', 'c', 'd'] := (stripMarks_of_bare hbare).symm.trans (by decide)
  subst hrest
  have hbytes : Hex.decode ['A', 'B', 'c', 'd'] = some [0xAB, 0xCD] := by decide
  have hnew : new "0x0xABcd" = .ok (ofBytes [0xAB, 0xCD]) :=
    (new_eq_ok_iff hbare).mpr ⟨_, hbytes, rfl⟩
  obtain ⟨bs, hdecode, -, -, htext⟩ := hvalue _ hnew
  obtain rfl : bs = [0xAB, 0xCD] := by
    simpa using hdecode.symm.trans hbytes
  have hshort : (ofBytes [0xAB, 0xCD]).text = "0xabcd" := htext
  exact ⟨hnew, hshort, hshort ▸ hback _ (.read hnew)⟩

end SafeOps.HexText
