import SafeOps.Proofs.Bytes
import SafeOps.Proofs.SafeOperation.Digest

/-!
# `SafeOps.Proofs.SafeOperation.Window`: one span of time on three ways out

The span of time leaves an operation in three ways, and each has a method of its own to make a
bound narrow. In front of the signatures it is cut to six bytes. Among the words of the owners'
hash it is clamped to 48 bits. In the message for wallets it stands as it is, and it is the wallet
that refuses what is too wide for the type of the member.

No bound is too wide (`SigningContext.Sound`), so all three say the same: `Agrees` for one bound,
and `windowed_run` for the operation that goes to the bundler, however it came about and whatever
signatures it is given. The last two ways agree on every member of the record
(`lookup_hashedFields`, `shows_of_mem`).
-/

set_option autoImplicit false

namespace SafeOps.SafeOperation

open TypedData (Entry Member)

/-- The words that the owners' hash is made from, each with the member of the written type that it
stands for. -/
def hashedFields (s : SafeOperation) : List (Member × Word) :=
  (TypedData.membersOf (UserOperation.recordType s.operation.generation)).zip
    (s.operation.recordWords s.context)

variable {s : SafeOperation}

/-- Each member of the record has its word among those that are hashed. -/
theorem lookup_hashedFields (h : s.WellFormed) {e : Entry}
    (he : e ∈ s.operation.entries s.context) :
    s.hashedFields.lookup e.member = some e.word := by
  rw [hashedFields, UserOperation.membersOf_recordType, ← s.operation.entries_member s.context,
    UserOperation.recordWords_eq h.fits h.sound]
  exact TypedData.lookup_zip_of_mem (s.operation.nodup_entries_name s.context) he

/-- The words that are hashed are exactly these. -/
theorem map_snd_hashedFields (h : s.WellFormed) :
    s.hashedFields.map Prod.snd = s.operation.recordWords s.context := by
  refine List.map_snd_zip ?_
  rw [UserOperation.membersOf_recordType, ← s.operation.entries_member s.context,
    UserOperation.recordWords_eq h.fits h.sound, List.length_map, List.length_map]

/-- Wallets are shown a value under a name, and a wallet that takes it for a value of a type has
a word for it. -/
structure Shows (s : SafeOperation) (name : String) (value : Json) (type : TypedData.ValueType)
    (word : Word) : Prop where
  found : ∃ data members, s.typedData = .ok data ∧ data.message = .obj members
    ∧ Json.lookup name members = some value
  word : TypedData.word type value = .ok word

/-- Each member of the record is shown to wallets, which find the word that is hashed. -/
theorem shows_of_mem (h : s.WellFormed) {e : Entry} (he : e ∈ s.operation.entries s.context) :
    s.Shows e.name e.json.sorted e.kind e.word := by
  refine ⟨⟨_, Json.sortedMembers ((s.operation.entries s.context).map Entry.value),
    (typedData_of_wellFormed h).1, ?_, ?_⟩,
    (UserOperation.sound_entries h.fits h.sound e he).word⟩
  · exact congrArg Json.sorted (s.operation.recordMessage_eq s.context)
  · have hkeys : (((s.operation.entries s.context).map Entry.value).map Prod.fst).Nodup := by
      rw [List.map_map]
      exact s.operation.nodup_entries_name s.context
    rw [Json.lookup_sortedMembers, Json.lookup_of_mem hkeys (List.mem_map_of_mem he)]
    rfl

/-! ### The span of time -/

/-- A bound of the span of time, as it leaves with an operation for the bundler: in six bytes of
the signature field, in a word that is hashed, and in a member of the message. -/
structure Agrees (s : SafeOperation) (signed : UserOperation) (place : Nat) (name : String)
    (bound : BitVec 64) : Prop where
  packed : Bytes.toNat (signed.signature.slice place 6) = bound.toNat
  hashed : s.hashedFields.lookup ⟨"uint48", name⟩ = some (bound.setWidth 256)
  shown : s.Shows name (Json.ofQuantity bound) (.uint 48) (bound.setWidth 256)

theorem entry_validAfter_mem (s : SafeOperation) :
    .uint 48 "validAfter" s.context.validAfter ∈ s.operation.entries s.context := by
  simp [UserOperation.entries]

theorem entry_validUntil_mem (s : SafeOperation) :
    .uint 48 "validUntil" s.context.validUntil ∈ s.operation.entries s.context := by
  simp [UserOperation.entries]

/-- A bound that fits is read back from its six bytes. -/
theorem toNat_packed (before after : Bytes) {place : Nat} {bound : BitVec 64}
    (hplace : before.length = place) (hfits : bound.toNat < limit 48) :
    Bytes.toNat ((before ++ Bytes.ofBits 6 bound ++ after).slice place 6) = bound.toNat := by
  rw [Bytes.slice_middle hplace (Bytes.length_ofBits 6 bound)]
  exact Bytes.toNat_ofNat (show bound.toNat < limit (8 * 6) from hfits)

theorem agrees_validAfter (h : s.WellFormed) (set : SignatureSet) :
    s.Agrees (s.toSignedWith set) 0 "validAfter" s.context.validAfter where
  packed := by
    show Bytes.toNat ((Bytes.ofBits 6 s.context.validAfter ++ Bytes.ofBits 6 s.context.validUntil
      ++ set.encode).slice 0 6) = _
    rw [List.append_assoc]
    exact toNat_packed [] _ rfl h.sound.validAfter_lt
  hashed := lookup_hashedFields h s.entry_validAfter_mem
  shown := shows_of_mem h s.entry_validAfter_mem

theorem agrees_validUntil (h : s.WellFormed) (set : SignatureSet) :
    s.Agrees (s.toSignedWith set) 6 "validUntil" s.context.validUntil where
  packed := toNat_packed _ _ (Bytes.length_ofBits 6 s.context.validAfter) h.sound.validUntil_lt
  hashed := lookup_hashedFields h s.entry_validUntil_mem
  shown := shows_of_mem h s.entry_validUntil_mem

/-- The operation for the bundler is the stored one with another signature field, in which the
span of time stands in front of the signatures. Both bounds are those that are hashed and shown. -/
structure Windowed (s : SafeOperation) (set : SignatureSet) (signed : UserOperation) : Prop where
  /-- With the stored signature field put back, it is the stored operation. -/
  frame : signed.withSignature s.operation.signature = s.operation
  signature : signed.signature = Bytes.ofNat 6 s.context.validAfter.toNat
    ++ Bytes.ofNat 6 s.context.validUntil.toNat ++ set.encode
  /-- The words of the fields, in their order, are what the owners' hash is made from. -/
  hash : s.hash = signingHash (UserOperation.domainHash s.context)
    (hashRecord (UserOperation.recordType s.operation.generation) (s.hashedFields.map Prod.snd))
  validAfter : s.Agrees signed 0 "validAfter" s.context.validAfter
  validUntil : s.Agrees signed 6 "validUntil" s.context.validUntil

theorem windowed_of_wellFormed (h : s.WellFormed) (set : SignatureSet) :
    s.Windowed set (s.toSignedWith set) where
  frame := rfl
  signature := rfl
  hash := by
    rw [map_snd_hashedFields h]
    rfl
  validAfter := agrees_validAfter h set
  validUntil := agrees_validUntil h set

/-- However an operation was made and changed, and whatever signatures it is given, the bundler
gets it with its span of time in the signature field, and this span is the one that owners sign
and that wallets show. -/
theorem windowed_run {o : Origin} {s₀ : SafeOperation} (h : o.make = .ok s₀)
    (changes : List Change) (set : SignatureSet) :
    (s₀.run changes).Windowed set ((s₀.run changes).toSignedWith set) :=
  windowed_of_wellFormed (wellFormed_run h changes) set

/-- A record that is signed anew after an estimation, by a key and by a contract. -/
theorem windowed_run_sample :
    ∃ s₀ set, Origin.sample.make = .ok s₀
      ∧ set = SignatureSet.ofList [.ofContract ⟨7⟩ [1, 2, 3], .ofBytes ⟨5⟩ (List.replicate 65 9)]
      ∧ (s₀.run [.clear, .estimate { callGas := some 7 }]).Windowed set
        ((s₀.run [.clear, .estimate { callGas := some 7 }]).toSignedWith set) := by
  obtain ⟨s₀, hmake⟩ : ∃ s₀, Origin.sample.make = .ok s₀ := ⟨_, rfl⟩
  exact ⟨s₀, _, hmake, rfl, windowed_run hmake [.clear, .estimate { callGas := some 7 }] _⟩

end SafeOps.SafeOperation
