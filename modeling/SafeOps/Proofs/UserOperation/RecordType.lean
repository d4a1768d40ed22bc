import SafeOps.Proofs.UserOperation.Payload

/-!
# `SafeOps.Proofs.UserOperation.RecordType`: one written type on both ways

The type of the record that owners sign is kept as a written text. The hash of that text goes into
the record's hash (`hashRecord`). A wallet never sees the text. It is given the members that
`membersOf` finds in it, writes a type from them on its own, and hashes that.

The two agree because nothing is lost on the way. Members whose parts are free of the marks that
separate them are found again, all of them and in their order, so what is written from them is the
text (`membersOf_typeText`). The records of both generations are of this kind
(`typeText_membersOf_recordType`), and their members are scalars, so a wallet writes no other
types behind the record's own (`written_message`). `membersOf_written` puts this together.
-/

set_option autoImplicit false

namespace SafeOps.UserOperation

open TypedData (Member Entry Names Size typeText membersOf)

variable (op : UserOperation) (c : SigningContext)

/-- What is written from the members found in the type is the type. -/
theorem typeText_membersOf_recordType (g : EntryPoint) :
    typeText "SafeOp" (membersOf (recordType g)) = recordType g := by
  rw [membersOf_recordType, ← recordType_eq]

/-- The types of the record's members are names of scalars. -/
theorem names_entries : ∀ e ∈ op.entries c, Names e.type (some e.kind) := by
  have huint : ∀ {width bits : Nat} (name : String) (x : BitVec width), Size bits →
      Names (Entry.uint bits name x).type (some (Entry.uint bits name x).kind) := by
    intro width bits name x hsize
    exact TypedData.names_uint hsize
  have hgas : ∀ e ∈ op.gasEntries, Names e.type (some e.kind) := by
    cases hg : op.generation with
    | v06 =>
      simp only [gasEntries, hg, List.forall_mem_cons]
      exact ⟨huint _ _ .word, huint _ _ .word, huint _ _ .word, huint _ _ .word,
        huint _ _ .word, List.forall_mem_nil _⟩
    | v07 =>
      simp only [gasEntries, hg, List.forall_mem_cons]
      exact ⟨huint _ _ .gas, huint _ _ .gas, huint _ _ .word, huint _ _ .gas, huint _ _ .gas,
        List.forall_mem_nil _⟩
  rw [entries, List.forall_mem_append, List.forall_mem_append]
  simp only [List.forall_mem_cons]
  exact ⟨⟨⟨TypedData.names_address, huint _ _ .word, TypedData.names_bytes,
      TypedData.names_bytes, List.forall_mem_nil _⟩, hgas⟩,
    TypedData.names_bytes, huint _ _ .time, huint _ _ .time, TypedData.names_address,
    List.forall_mem_nil _⟩

/-- A wallet writes the record's type as it was written before. -/
theorem written_message :
    (op.message c).types.written (op.message c).primaryType
      = .ok (recordType op.generation) := by
  have hscalars : TypedData.RecordTypes.Scalars (types op.generation) (op.entries c) := by
    intro e he
    exact ⟨op.free_entries c e he, op.names_entries c e he⟩
  show TypedData.RecordTypes.written (types op.generation) "SafeOp" = _
  rw [TypedData.RecordTypes.written_flat names_record (op.lookup_types c) hscalars,
    entries_member, ← recordType_eq]

/-- The members of a written type are found again in it, and what is written from them is the
text they were found in. For the record that owners sign this means: a wallet, which is given
the members only, writes from them the text whose hash stands in front of the record's words,
whatever the operation and the context are. -/
theorem membersOf_written :
    (∀ (name : String) (members : List Member), '(' ∉ name.toList → (∀ m ∈ members, m.Clear) →
      membersOf (typeText name members) = members
        ∧ typeText name (membersOf (typeText name members)) = typeText name members)
      ∧ ∀ (op : UserOperation) (c : SigningContext), ∃ data written,
        TypedData.ofJson? (op.payload c) = some data
          ∧ data.types.lookup data.primaryType = some (membersOf (recordType op.generation))
          ∧ data.types.written data.primaryType = .ok written
          ∧ written = typeText "SafeOp" (membersOf (recordType op.generation))
          ∧ op.recordHash c = keccak256 ((keccak256 (Bytes.ofText written)).toBytes
            ++ wordsBytes (op.recordWords c)) := by
  constructor
  · intro name members hname hclear
    have hmembers : membersOf (typeText name members) = members :=
      TypedData.membersOf_typeText hname hclear
    exact ⟨hmembers, by rw [hmembers]⟩
  · intro op c
    refine ⟨op.message c, recordType op.generation, op.ofJson?_payload c, ?_,
      op.written_message c, (typeText_membersOf_recordType op.generation).symm, rfl⟩
    rw [membersOf_recordType, ← op.entries_member c]
    exact op.lookup_types c

/-- A type with an array and with a name that has a parenthesis in it. -/
theorem membersOf_written_mail :
    membersOf "Mail(bytes32[2] salts,string text(s))"
      = [⟨"bytes32[2]", "salts"⟩, ⟨"string", "text(s)"⟩] := by
  have htext : typeText "Mail" [⟨"bytes32[2]", "salts"⟩, ⟨"string", "text(s)"⟩]
      = "Mail(bytes32[2] salts,string text(s))" := by decide +kernel
  have hclear : ∀ m ∈ [(⟨"bytes32[2]", "salts"⟩ : Member), ⟨"string", "text(s)"⟩], m.Clear := by
    simp only [List.forall_mem_cons]
    exact ⟨⟨by decide, by decide, by decide⟩, ⟨by decide, by decide, by decide⟩,
      List.forall_mem_nil _⟩
  rw [← htext]
  exact (membersOf_written.1 "Mail" _ (by decide) hclear).1

end SafeOps.UserOperation
