import SafeOps.Proofs.Failable
import SafeOps.Proofs.Json.Members
import SafeOps.TypedData

/-!
# `SafeOps.Proofs.TypedData.Flat`: the hash of a message whose members are scalars

The type of a message may lead to other record types, which the walks of
`SafeOps.TypedData.RecordTypes` collect. A message whose members are all scalars needs none of
it: its type is written as it stands (`written_flat`), and resolves to a record of the scalars
(`recordType_flat`).

An `Entry` puts beside each other what there is of a member: the type it is written with, its
name, its type, its JSON and its word. Entries are sound if the JSON has the word.
`messageHash_of_entries` is the hash of a message that was written from sound entries: the
words of the entries behind the type that they make up.
-/

set_option autoImplicit false

namespace SafeOps.TypedData

/-! ### Names without arrays -/

/-- A name of a type with no array around it, and the scalar it is the name of, if any. -/
structure Names (type : String) (scalar? : Option ValueType) : Prop where
  isType : TypeName.isType type = true
  rootText : TypeName.rootText type = type
  readRoot : TypeName.readRoot type = .ok type
  lengths : TypeName.lengths type = []
  scalar : ValueType.scalar? type = scalar?

theorem Names.root {type : String} {scalar? : Option ValueType} (h : Names type scalar?) :
    RecordTypes.root type = .ok type := by
  rw [RecordTypes.root, h.readRoot]
  rfl

/-! ### Sorting texts -/

theorem mem_insertText {s u : String} {texts : List String} (h : u ∈ insertText s texts) :
    u = s ∨ u ∈ texts := by
  induction texts with
  | nil => exact Or.inl (List.mem_singleton.mp h)
  | cons t ts ih =>
    unfold insertText at h
    split at h
    · exact List.mem_cons.mp h
    · split at h
      · exact Or.inr h
      · rcases List.mem_cons.mp h with rfl | h
        · exact Or.inr List.mem_cons_self
        · exact (ih h).imp id (List.mem_cons_of_mem t)

theorem mem_sortTexts {u : String} {texts : List String} (h : u ∈ sortTexts texts) :
    u ∈ texts := by
  induction texts with
  | nil => exact h
  | cons t ts ih =>
    rcases mem_insertText h with rfl | h
    · exact List.mem_cons_self
    · exact List.mem_cons_of_mem t (ih h)

/-! ### Entries -/

/-- What there is of a member of a message, beside each other. -/
structure Entry where
  /-- The type as it is written. -/
  type : String
  name : String
  /-- The type that is meant. -/
  kind : ValueType
  json : Json
  word : Word

namespace Entry

/-- The member as it stands in the written type. -/
def member (e : Entry) : Member :=
  ⟨e.type, e.name⟩

def field (e : Entry) : String × ValueType :=
  (e.name, e.kind)

/-- The member as it stands in the message. -/
def value (e : Entry) : String × Json :=
  (e.name, e.json)

/-- The type is the name of a scalar, and the value has the word. -/
structure Sound (e : Entry) : Prop where
  names : Names e.type (some e.kind)
  word : TypedData.word e.kind e.json.sorted = .ok e.word

end Entry

/-! ### Walks that end at once -/

namespace RecordTypes

variable {types : RecordTypes} {name : String} {entries : List Entry}

/-- The types of all entries are names of scalars, and of no record type. -/
def Scalars (types : RecordTypes) (entries : List Entry) : Prop :=
  ∀ e ∈ entries, types.lookup e.type = none ∧ Names e.type (some e.kind)

/-- What the members of a record of scalars lead to are their types. -/
theorem exists_entry_of_mem_roots (hscalars : Scalars types entries) {root : String}
    (h : root ∈ roots (entries.map Entry.member)) : ∃ e ∈ entries, e.type = root := by
  obtain ⟨m, hm, hroot⟩ := List.mem_map.mp (mem_sortTexts h)
  obtain ⟨e, he, rfl⟩ := List.mem_map.mp hm
  have hnames := (hscalars e he).2
  exact ⟨e, he, by rw [← hroot]; exact hnames.rootText.symm⟩

/-- A record of scalars does not lead to itself. -/
theorem isCircular_flat (hlookup : types.lookup name = some (entries.map Entry.member))
    (hscalars : Scalars types entries) : isCircular types name = false := by
  obtain ⟨front, back, htypes, -⟩ := List.lookup_eq_some_iff.mp hlookup
  have hmem : (name, entries.map Entry.member) ∈ types := by
    rw [htypes]
    exact List.mem_append_right _ List.mem_cons_self
  have hsettle : ∀ known, name ∈ settle types known := by
    intro known
    refine List.mem_map.mpr ⟨_, List.mem_filter.mpr ⟨hmem, ?_⟩, rfl⟩
    refine List.all_eq_true.mpr fun root hroot => ?_
    obtain ⟨e, he, rfl⟩ := exists_entry_of_mem_roots hscalars hroot
    rw [(hscalars e he).1]
    rfl
  -- It is there after the first round, and after each round that follows.
  have hrounds : ∀ (rounds : RecordTypes) (known : List String), rounds ≠ [] →
      name ∈ rounds.foldl (fun known _ => settle types known) known := by
    intro rounds
    induction rounds with
    | nil => exact fun _ hne => absurd rfl hne
    | cons round rest ih =>
      intro known _
      rw [List.foldl_cons]
      cases rest with
      | nil => exact hsettle known
      | cons r rs => exact ih _ (List.cons_ne_nil r rs)
  have hsettled : name ∈ settled types := hrounds types [] (List.ne_nil_of_mem hmem)
  rw [isCircular, hlookup, List.contains_iff_mem.mpr hsettled]
  rfl

theorem collect_scalar {text : String} {kind : ValueType} (h : Names text (some kind))
    (steps : Nat) (found : RecordTypes) : collect types steps found text = .ok found := by
  cases steps with
  | zero => rfl
  | succ steps =>
    rw [collect, h.root]
    show (if (ValueType.scalar? text).isSome then _ else _) = _
    rw [h.scalar]
    rfl

theorem foldlM_collect_scalars {texts : List String} (steps : Nat) (found : RecordTypes)
    (h : ∀ text ∈ texts, ∃ kind, Names text (some kind)) :
    texts.foldlM (collect types steps) found = .ok found := by
  induction texts with
  | nil => rfl
  | cons text rest ih =>
    obtain ⟨kind, hnames⟩ := h text List.mem_cons_self
    rw [List.foldlM_cons, collect_scalar hnames]
    exact ih fun t ht => h t (List.mem_cons_of_mem text ht)

/-- The written type of a record of scalars is its own text. -/
theorem written_flat (hname : Names name none)
    (hlookup : types.lookup name = some (entries.map Entry.member))
    (hscalars : Scalars types entries) :
    written types name = .ok (typeText name (entries.map Entry.member)) := by
  have hroots : ∀ root ∈ roots (entries.map Entry.member), ∃ kind, Names root (some kind) := by
    intro root hroot
    obtain ⟨e, he, rfl⟩ := exists_entry_of_mem_roots hscalars hroot
    exact ⟨e.kind, (hscalars e he).2⟩
  -- The walk finds the record itself and stops at each of its members.
  have hcollect : collect types (maxSteps types) [] name
      = .ok [(name, entries.map Entry.member)] := by
    rw [maxSteps, collect, hname.root]
    show (if (ValueType.scalar? name).isSome then _ else _) = _
    rw [hname.scalar, hlookup]
    exact foldlM_collect_scalars _ _ hroots
  rw [written, isCircular_flat hlookup hscalars, hcollect]
  show Except.ok (typeText name (entries.map Entry.member) ++ "") = _
  rw [String.append_empty]

theorem resolve_scalar {text : String} {kind : ValueType} (h : Names text (some kind))
    (steps : Nat) : resolve types (steps + 1) text = .ok kind := by
  rw [resolve, h.rootText, h.root, h.lengths]
  simp only [bind, Except.bind, h.scalar]
  rfl

/-- A record of scalars means the record of what its members mean. -/
theorem recordType_flat (hname : Names name none)
    (hlookup : types.lookup name = some (entries.map Entry.member))
    (hscalars : Scalars types entries) :
    recordType types name
      = .ok (.record (typeText name (entries.map Entry.member)) (entries.map Entry.field)) := by
  have hwritten := written_flat hname hlookup hscalars
  -- There is a type, so a walk has a step left for the members.
  have hlength : types.length ≠ 0 := by
    obtain ⟨front, back, htypes, -⟩ := List.lookup_eq_some_iff.mp hlookup
    rw [htypes]
    simp
  obtain ⟨steps, hsteps⟩ := Nat.exists_eq_succ_of_ne_zero hlength
  have hfields : (entries.map Entry.member).mapM (fun m =>
      (resolve types types.length m.type).map (m.name, ·)) = .ok (entries.map Entry.field) := by
    rw [List.mapM_map]
    refine mapM_eq_pure_map fun e he => ?_
    show (resolve types types.length e.type).map (e.name, ·) = _
    rw [hsteps, resolve_scalar (hscalars e he).2]
    rfl
  have hresolve : resolve types (maxSteps types) name
      = .ok (.record (typeText name (entries.map Entry.member)) (entries.map Entry.field)) := by
    rw [maxSteps, resolve, hname.rootText, hname.root, hname.lengths]
    simp only [bind, Except.bind, hname.scalar, hlookup, hfields, hwritten]
    rfl
  rw [recordType, hwritten, hresolve]
  rfl

end RecordTypes

/-! ### The message -/

/-- The words of the entries of a message, where the message has all of them. -/
theorem memberWords_of_entries (type : String) (record : Json) {all entries : List Entry}
    (hkeys : (all.map Entry.name).Nodup) (hsound : ∀ e ∈ all, e.Sound)
    (hentries : ∀ e ∈ entries, e ∈ all) :
    memberWords type record (Json.sortedMembers (all.map Entry.value))
      (entries.map Entry.field) = .ok (entries.map Entry.word) := by
  have hfst : (all.map Entry.value).map Prod.fst = all.map Entry.name := by
    rw [List.map_map]
    rfl
  induction entries with
  | nil => rfl
  | cons e rest ih =>
    have he : e ∈ all := hentries e List.mem_cons_self
    have hvalue : Json.lookup e.name (all.map Entry.value) = some e.json :=
      Json.lookup_of_mem (by rw [hfst]; exact hkeys) (List.mem_map_of_mem he)
    have hlookup : Json.lookup e.name (Json.sortedMembers (all.map Entry.value))
        = some e.json.sorted := by
      rw [Json.lookup_sortedMembers, hvalue]
      rfl
    have hrest := ih fun e' he' => hentries e' (List.mem_cons_of_mem e he')
    rw [List.map_cons, Entry.field, memberWords, hlookup, hrest]
    show (do
      let w ← word e.kind e.json.sorted
      return w :: rest.map Entry.word : Except Fault (List Word)) = _
    rw [(hsound e he).word]
    rfl

/-- Beside each other, the word of an entry is found by its member. -/
theorem lookup_zip_of_mem {entries : List Entry}
    (hkeys : (entries.map Entry.name).Nodup) {e : Entry} (he : e ∈ entries) :
    ((entries.map Entry.member).zip (entries.map Entry.word)).lookup e.member = some e.word := by
  induction entries with
  | nil => exact absurd he List.not_mem_nil
  | cons first rest ih =>
    rw [List.map_cons] at hkeys
    obtain ⟨hfirst, hrest⟩ := List.nodup_cons.mp hkeys
    rw [List.map_cons, List.map_cons, List.zip_cons_cons]
    rcases List.mem_cons.mp he with rfl | he
    · exact List.lookup_cons_self
    · have hname : e.name ≠ first.name := fun heq => hfirst (heq ▸ List.mem_map_of_mem he)
      have hne : e.member ≠ first.member := fun heq => hname (congrArg Member.name heq)
      rw [List.lookup_cons, beq_false_of_ne hne]
      exact ih hrest he

/-- The hash of a message that was written from sound entries, and sorted. -/
theorem messageHash_of_entries {t : TypedData} {entries : List Entry}
    (hprimary : Names t.primaryType none)
    (htypes : t.types.lookup t.primaryType = some (entries.map Entry.member))
    (hfree : ∀ e ∈ entries, t.types.lookup e.type = none)
    (hmessage : t.message = (Json.obj (entries.map Entry.value)).sorted)
    (hkeys : (entries.map Entry.name).Nodup) (hsound : ∀ e ∈ entries, e.Sound) :
    t.messageHash
      = .ok (hashRecord (typeText t.primaryType (entries.map Entry.member))
          (entries.map Entry.word)) := by
  have hscalars : RecordTypes.Scalars t.types entries := fun e he =>
    ⟨hfree e he, (hsound e he).names⟩
  have hword : word (.record (typeText t.primaryType (entries.map Entry.member))
        (entries.map Entry.field)) (.obj (Json.sortedMembers (entries.map Entry.value)))
      = .ok (hashRecord (typeText t.primaryType (entries.map Entry.member))
          (entries.map Entry.word)).bits :=
    word_record (memberWords_of_entries _ _ hkeys hsound fun _ he => he)
  rw [messageHash, RecordTypes.recordType_flat hprimary htypes hscalars, hmessage, Json.sorted]
  simp only [bind, Except.bind, hword]
  rfl

end SafeOps.TypedData
