import SafeOps.Proofs.Abi
import SafeOps.Proofs.Program.Transcript
import SafeOps.Proofs.Text.Ascii
import SafeOps.Proofs.Text.Blank
import SafeOps.Proofs.Text.Split
import SafeOps.Rehearsal.Stage

/-!
# `SafeOps.Proofs.Signing.Passkey`: what of a signed text travels with a signature

An authenticator signs a text, and the contract that checks the signature puts this text
together again: from the challenge, which it knows, and from the fields behind the challenge,
which travel in the signature.

`clientDataFields` looks for the fields with a scanner that knows nothing of JSON. `Cuts` is what
it does to any text, stated without the scanner: the mark of the challenge counts where it stands
first, the challenge ends at the next quote, and the fields end at a brace that only blanks
follow. `clientDataFields_eq_iff` says that it does this and nothing else. So what it cuts out is
a part of the text as it stands (`Cuts.isInfix`), whatever the text is.

`WebAuthn` are the texts that authenticators write. The fields of such a text are found, even if
they hold quotes, braces or another mark, and a signature made with them `Carries` all that the
contract needs.
-/

set_option autoImplicit false

namespace SafeOps.Passkey

/-! ### The mark of the challenge -/

section Mark

variable {mark text before rest : List Char}

/-- A mark stands in a text between `before` and `rest`, and none starts further left. -/
structure FirstMark (mark text before rest : List Char) : Prop where
  eq : text = before ++ mark ++ rest
  first : ∀ before' rest', text = before' ++ mark ++ rest' → before.length ≤ before'.length

/-- There is only one first mark. -/
theorem FirstMark.unique {before' rest' : List Char} (h : FirstMark mark text before rest)
    (h' : FirstMark mark text before' rest') : before = before' ∧ rest = rest' := by
  -- Neither starts further left than the other, so both cut the text at the same places.
  have hlength : before.length = before'.length :=
    Nat.le_antisymm (h.first before' rest' h'.eq) (h'.first before rest h.eq)
  have heq : before ++ mark ++ rest = before' ++ mark ++ rest' := h.eq.symm.trans h'.eq
  rw [List.append_assoc, List.append_assoc] at heq
  obtain ⟨hbefore, htail⟩ := List.append_inj heq hlength
  exact ⟨hbefore, List.append_cancel_left htail⟩

theorem after?_eq_none_iff : after? mark text = none ↔ ¬ mark <:+: text := by
  induction text with
  | nil =>
    rw [after?, List.infix_nil, ← List.isEmpty_iff]
    split
    · next hempty => exact ⟨nofun, fun h => absurd hempty h⟩
    · next hempty => exact ⟨fun _ => hempty, fun _ => rfl⟩
  | cons c cs ih =>
    rw [after?, List.infix_cons_iff, not_or, ← ih, ← List.isPrefixOf_iff_prefix]
    split
    · next hstarts => exact ⟨nofun, fun h => absurd hstarts h.1⟩
    · next hstarts => exact ⟨fun h => ⟨hstarts, h⟩, And.right⟩

theorem firstMark_of_after? (h : after? mark text = some rest) :
    ∃ before, FirstMark mark text before rest := by
  induction text with
  | nil =>
    rw [after?] at h
    split at h
    · next hempty =>
      cases h
      exact ⟨[], by rw [List.isEmpty_iff.mp hempty]; rfl, fun _ _ _ => Nat.zero_le _⟩
    · cases h
  | cons c cs ih =>
    rw [after?] at h
    split at h
    · next hstarts =>
      cases h
      have hmark := List.prefix_iff_eq_append.mp (List.isPrefixOf_iff_prefix.mp hstarts)
      exact ⟨[], hmark.symm, fun _ _ _ => Nat.zero_le _⟩
    · next hstarts =>
      obtain ⟨before, heq, hfirst⟩ := ih h
      refine ⟨c :: before, by rw [heq]; rfl, fun before' rest' heq' => ?_⟩
      cases before' with
      | nil =>
        -- A mark at the very start would have been found there.
        have hstart : mark <+: c :: cs := ⟨rest', heq'.symm⟩
        exact absurd (List.isPrefixOf_iff_prefix.mpr hstart) hstarts
      | cons d front =>
        exact Nat.succ_le_succ (hfirst front rest' (List.cons.inj heq').2)

/-- What follows a mark is what follows the first one. -/
theorem after?_eq_some_iff :
    after? mark text = some rest ↔ ∃ before, FirstMark mark text before rest := by
  refine ⟨firstMark_of_after?, fun ⟨before, hmark⟩ => ?_⟩
  cases hafter : after? mark text with
  | none => exact absurd ⟨before, rest, hmark.eq.symm⟩ (after?_eq_none_iff.mp hafter)
  | some rest' =>
    obtain ⟨before', hmark'⟩ := firstMark_of_after? hafter
    rw [(hmark.unique hmark').2]

end Mark

/-! ### The brace and the comma -/

/-- The text is `fields`, then a brace, then only blanks. -/
def Closed (text fields : List Char) : Prop :=
  ∃ blanks : List Char, (∀ b ∈ blanks, Text.isBlank b = true) ∧ text = fields ++ '\x7d' :: blanks

theorem dropBrace?_eq_some_iff {text fields : List Char} :
    dropBrace? text = some fields ↔ Closed text fields := by
  rw [dropBrace?]
  constructor
  · intro h
    obtain ⟨blanks, hblanks, htext⟩ := Text.exists_blanks text
    split at h
    · next hlast =>
      obtain ⟨front, hfront⟩ := List.getLast?_eq_some_iff.mp hlast
      rw [hfront, List.dropLast_concat] at h
      cases h
      refine ⟨blanks, hblanks, ?_⟩
      rw [htext, hfront, List.append_assoc, List.singleton_append]
    · cases h
  · rintro ⟨blanks, hblanks, rfl⟩
    rw [Text.dropBlanksRight_concat (by decide) hblanks]
    simp only [List.getLast?_concat, if_true, List.dropLast_concat]

theorem dropComma_suffix (cs : List Char) : dropComma cs <:+ cs := by
  unfold dropComma
  split
  · exact List.suffix_cons _ _
  · exact List.suffix_rfl

/-! ### Any text -/

/-- What becomes of a text: its fields, or what it lacks. -/
inductive Cuts (text : List Char) : Except AssertionFault (List Char) → Prop
  | noChallenge (hmark : ¬ challengeMark <:+: text) : Cuts text (.error .noChallenge)
  | unterminated {before rest : List Char} (hmark : FirstMark challengeMark text before rest)
      (hquote : '"' ∉ rest) : Cuts text (.error .unterminatedChallenge)
  | notAnObject {before challenge tail : List Char}
      (hmark : FirstMark challengeMark text before (challenge ++ '"' :: tail))
      (hquote : '"' ∉ challenge) (hopen : ∀ body, ¬ Closed tail body) :
      Cuts text (.error .notAnObject)
  | fields {before challenge tail body : List Char}
      (hmark : FirstMark challengeMark text before (challenge ++ '"' :: tail))
      (hquote : '"' ∉ challenge) (hclosed : Closed tail body) :
      Cuts text (.ok (dropComma body))

/-- Something becomes of every text. -/
theorem exists_cuts (text : List Char) : ∃ r, Cuts text r := by
  cases hafter : after? challengeMark text with
  | none => exact ⟨_, .noChallenge (after?_eq_none_iff.mp hafter)⟩
  | some rest =>
    obtain ⟨before, hmark⟩ := after?_eq_some_iff.mp hafter
    cases hsplit : Text.splitOnce '"' rest with
    | none => exact ⟨_, .unterminated hmark (Text.splitOnce_eq_none_iff.mp hsplit)⟩
    | some pieces =>
      obtain ⟨challenge, tail⟩ := pieces
      obtain ⟨rfl, hquote⟩ := Text.splitOnce_eq_some_iff.mp hsplit
      by_cases hclosed : ∃ body, Closed tail body
      · obtain ⟨body, hbody⟩ := hclosed
        exact ⟨_, .fields hmark hquote hbody⟩
      · exact ⟨_, .notAnObject hmark hquote (not_exists.mp hclosed)⟩

theorem Cuts.clientDataFields_eq {text : String} {r : Except AssertionFault (List Char)}
    (h : Cuts text.toList r) : clientDataFields text = r.map String.ofList := by
  rw [clientDataFields]
  cases h with
  | noChallenge hmark =>
    rw [after?_eq_none_iff.mpr hmark]
    rfl
  | unterminated hmark hquote =>
    simp only [after?_eq_some_iff.mpr ⟨_, hmark⟩, Text.splitOnce_eq_none_iff.mpr hquote]
    rfl
  | @notAnObject before challenge tail hmark hquote hopen =>
    have hnone : dropBrace? tail = none :=
      Option.eq_none_iff_forall_ne_some.mpr fun body hbody =>
        hopen body (dropBrace?_eq_some_iff.mp hbody)
    simp only [after?_eq_some_iff.mpr ⟨_, hmark⟩, Text.splitOnce_append hquote, hnone]
    rfl
  | fields hmark hquote hclosed =>
    simp only [after?_eq_some_iff.mpr ⟨_, hmark⟩, Text.splitOnce_append hquote,
      dropBrace?_eq_some_iff.mpr hclosed]
    rfl

/-- `Cuts` is what becomes of a text, and nothing else does. -/
theorem clientDataFields_eq_iff {text : String} {r : Except AssertionFault (List Char)} :
    clientDataFields text = r.map String.ofList ↔ Cuts text.toList r := by
  refine ⟨fun h => ?_, Cuts.clientDataFields_eq⟩
  obtain ⟨r', hcuts⟩ := exists_cuts text.toList
  rw [hcuts.clientDataFields_eq] at h
  cases r' with
  | error fault =>
    cases r with
    | error fault' =>
      cases h
      exact hcuts
    | ok fields => cases h
  | ok fields' =>
    cases r with
    | error fault => cases h
    | ok fields =>
      obtain rfl : fields' = fields := String.ofList_injective (Except.ok.inj h)
      exact hcuts

/-- Fields stand in the text as they are. -/
theorem Cuts.isInfix {text fields : List Char} (h : Cuts text (.ok fields)) :
    fields <:+: text := by
  cases h with
  | @fields before challenge tail body hmark hquote hclosed =>
    obtain ⟨blanks, -, rfl⟩ := hclosed
    have hbody : dropComma body <:+: text := by
      refine (dropComma_suffix body).isInfix.trans ⟨before ++ challengeMark ++ challenge ++ ['"'],
        '\x7d' :: blanks, ?_⟩
      rw [hmark.eq]
      simp only [List.append_assoc, List.cons_append, List.nil_append]
    exact hbody

/-! ### Texts of authenticators -/

/-- What an authenticator writes in front of a challenge. -/
def opening : String :=
  "\x7b\"type\":\"webauthn.get\",\"challenge\":\""

/-- What an authenticator writes between a challenge and the fields. -/
def separator : String :=
  "\","

/-- A text as authenticators write it, with blanks behind it. -/
structure WebAuthn (text challenge fields : String) : Prop where
  quote : '"' ∉ challenge.toList
  eq : ∃ blanks : List Char, (∀ b ∈ blanks, Text.isBlank b = true) ∧
    text = opening ++ challenge ++ separator ++ fields ++ "\x7d" ++ String.ofList blanks

/-- The first mark of the challenge is the one at the end of the opening. -/
theorem after?_opening (rest : List Char) :
    after? challengeMark (opening.toList ++ rest) = some rest :=
  rfl

namespace WebAuthn

variable {text challenge fields : String}

theorem cuts (h : WebAuthn text challenge fields) : Cuts text.toList (.ok fields.toList) := by
  obtain ⟨blanks, hblanks, htext⟩ := h.eq
  have hlist : text.toList = opening.toList
      ++ (challenge.toList ++ '"' :: ((',' :: fields.toList) ++ '\x7d' :: blanks)) := by
    rw [htext]
    simp [separator]
  have hclosed : Closed ((',' :: fields.toList) ++ '\x7d' :: blanks) (',' :: fields.toList) :=
    ⟨blanks, hblanks, rfl⟩
  -- A mark among the fields does not matter, since the one in the opening comes first.
  obtain ⟨before, hmark⟩ := after?_eq_some_iff.mp (after?_opening _)
  rw [← hlist] at hmark
  exact .fields hmark h.quote hclosed

/-- The fields of the text are found, whatever they are. -/
theorem clientDataFields_eq (h : WebAuthn text challenge fields) :
    clientDataFields text = .ok fields := by
  rw [h.cuts.clientDataFields_eq]
  exact congrArg Except.ok String.ofList_toList

end WebAuthn

/-! ### Signatures -/

/-- The text that the shared signer puts together from a challenge and from fields, as bytes. -/
def rebuild (challenge : String) (fields : Bytes) : Bytes :=
  Bytes.ofText opening ++ Bytes.ofText challenge ++ Bytes.ofText separator ++ fields
    ++ Bytes.ofText "\x7d"

/-- The signed text comes back, without the blanks behind it. -/
theorem WebAuthn.rebuild_eq {text challenge fields : String}
    (h : WebAuthn text challenge fields) :
    rebuild challenge (Bytes.ofText fields)
      = Bytes.ofText (String.ofList (Text.dropBlanksRight text.toList)) := by
  obtain ⟨blanks, hblanks, htext⟩ := h.eq
  have hlist : text.toList
      = (opening ++ challenge ++ separator ++ fields).toList ++ '\x7d' :: blanks := by
    rw [htext]
    simp
  rw [hlist, Text.dropBlanksRight_concat (by decide) hblanks, String.ofList_append,
    String.ofList_toList]
  simp only [rebuild, Bytes.ofText_append]

theorem exact_signatureTypes : ∀ t ∈ signatureTypes, t.Exact := by
  decide

/-- A signature in the name of the shared signer holds what an authenticator answered, with
fields from which the text that was signed can be put together again. -/
structure Carries (signature : OwnerSignature) (sharedSigner : Address) (a : Assertion)
    (challenge fields : String) : Prop where
  signer : signature.signer = sharedSigner
  isContract : signature.isContract = true
  data : Abi.decode signatureTypes signature.data
    = .ok (a.authenticatorData, Bytes.ofText fields, (a.r, a.s, ()), ())
  text : rebuild challenge (Bytes.ofText fields)
    = Bytes.ofText (String.ofList (Text.dropBlanksRight a.clientData.toList))

theorem WebAuthn.carries {a : Assertion} {challenge fields : String} (sharedSigner : Address)
    (h : WebAuthn a.clientData challenge fields)
    (hsize : (encodeSignature a.authenticatorData fields a.r a.s).length < limit 64) :
    Carries (.ofContract sharedSigner (encodeSignature a.authenticatorData fields a.r a.s))
      sharedSigner a challenge fields where
  signer := rfl
  isContract := rfl
  data := by
    have hdecode := Abi.decode_encode exact_signatureTypes
      (a.authenticatorData, Bytes.ofText fields, (a.r, a.s, ()), ()) [] hsize
    rwa [List.append_nil] at hdecode
  text := h.rebuild_eq

/-! ### Signing -/

section Signing

variable {σ : Type} (answer : σ → (question : Query) → question.Answer × σ) (world : σ)
  (sharedSigner : Address) (h : Hash)

/-- Asking a passkey is a single question. -/
theorem run_signHash :
    (Signer.signHash sharedSigner h).run
      = .ask (.assertion h) fun reply => .done (reply.bind (toSignature sharedSigner)) := by
  refine congrArg (Program.ask (.assertion h)) (funext fun reply => ?_)
  cases reply <;> rfl

/-- Whatever is behind a passkey, it is asked once, for the hash. If it signed a text as
authenticators write it, there is a signature that holds all that the shared signer needs, as long
as its size can be counted with 64 bits. Of any other text either a part is cut out as it stands,
or the answer is refused for what the text lacks. -/
theorem signHash_of_answer {a : Assertion} (ha : (answer world (.assertion h)).1 = .ok a) :
    Program.transcript answer (Signer.signHash sharedSigner h).run world
        = [⟨.assertion h, .ok a⟩]
      ∧ (∀ challenge fields, WebAuthn a.clientData challenge fields →
          (encodeSignature a.authenticatorData fields a.r a.s).length < limit 64 →
          ∃ signature,
            (Program.run answer (Signer.signHash sharedSigner h).run world).1 = .ok signature
              ∧ Carries signature sharedSigner a challenge fields)
      ∧ ((∃ fields, clientDataFields a.clientData = .ok fields
            ∧ fields.toList <:+: a.clientData.toList)
          ∨ ∃ fault, clientDataFields a.clientData = .error fault
            ∧ (Program.run answer (Signer.signHash sharedSigner h).run world).1
              = .error (.invalidAssertion fault)) := by
  have hrun : (Program.run answer (Signer.signHash sharedSigner h).run world).1
      = toSignature sharedSigner a := by
    rw [run_signHash]
    show (answer world (.assertion h)).1.bind (toSignature sharedSigner) = _
    rw [ha]
    rfl
  refine ⟨?_, fun challenge fields hwritten hsize => ?_, ?_⟩
  · rw [run_signHash]
    show [(⟨.assertion h, (answer world (.assertion h)).1⟩ : Exchange)] = _
    rw [ha]
  · refine ⟨_, ?_, hwritten.carries sharedSigner hsize⟩
    rw [hrun, toSignature, hwritten.clientDataFields_eq]
  · rw [hrun, toSignature]
    obtain ⟨r, hcuts⟩ := exists_cuts a.clientData.toList
    cases r with
    | error fault =>
      rw [hcuts.clientDataFields_eq]
      exact Or.inr ⟨fault, rfl, rfl⟩
    | ok fields =>
      rw [hcuts.clientDataFields_eq]
      refine Or.inl ⟨String.ofList fields, rfl, ?_⟩
      rw [String.toList_ofList]
      exact hcuts.isInfix

end Signing

/-- An answer to a challenge. The fields of its text hold a mark, a quote and a brace. -/
def answered : Assertion where
  authenticatorData := List.replicate 32 0x49 ++ [0x05, 0, 0, 0, 1]
  clientData :=
    "\x7b\"type\":\"webauthn.get\",\"challenge\":\"9jEF\",\"challenge\":\"é\x7d\"\x7d \n"
  r := 3
  s := 4

/-- A stage with a passkey that gives this answer. -/
def answering : Rehearsal.Stage where
  owner := some (.passkey ⟨⟨[0x63], 1, 2, 0x100⟩, answered, none⟩)

theorem signHash_of_answer_answered :
    ∃ signature, (Program.run Rehearsal.Stage.answer
        (Signer.signHash Address.zero ⟨0⟩).run answering).1 = .ok signature
      ∧ Carries signature Address.zero answered "9jEF" "\"challenge\":\"é\x7d\"" := by
  have hanswer : (answering.answer (.assertion ⟨0⟩)).1 = .ok answered := rfl
  have hwritten : WebAuthn answered.clientData "9jEF" "\"challenge\":\"é\x7d\"" :=
    ⟨by decide, [' ', '\n'], List.all_eq_true.mp (by decide), by decide⟩
  refine (signHash_of_answer Rehearsal.Stage.answer answering Address.zero ⟨0⟩ hanswer).2.1
    "9jEF" "\"challenge\":\"é\x7d\"" hwritten ?_
  decide +kernel

end SafeOps.Passkey
