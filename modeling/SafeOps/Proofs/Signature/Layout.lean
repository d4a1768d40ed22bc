import Mathlib.Data.List.Dedup
import SafeOps.Proofs.Bytes
import SafeOps.Proofs.Signature.Collection

/-!
# `SafeOps.Proofs.Signature.Layout`: signatures as the account reads them

The account reads the signatures of an operation slot by slot. A slot of a key is its
signature. A slot of a contract names the contract and an offset; at the offset stand the size
of the contract's data and the data. `SlotReads` says that this is what one finds in a string
of bytes, and `Tiles` that the regions the slots name follow each other without a gap.

`readable_encode` proves both of `SignatureSet.encode`, for all signatures that have a slot's
size unless they are a contract's. The proof cuts the encoding at the `i`-th signature: what
stands before its slot has `slotSize * i` bytes, and what stands before its entry has
`entryOffset` many, which is the offset that `slots` has counted up to there.

Offsets and sizes are written with 256 bits. They fit because data in memory is shorter than
`limit 64` and there are no more than `limit 160` owners.

The main statement is `readable_encode_ofList`, for all signatures that were added one after
another.
-/

set_option autoImplicit false

namespace SafeOps

/-! ### Signatures with a slot -/

namespace OwnerSignature

/-- The signatures that the constructors give. Byte strings in memory have a size of 64
bits. -/
inductive Built : OwnerSignature → Prop
  | ofKey (signer : Address) (signature : Secp256k1.Signature) : Built (.ofKey signer signature)
  | ofContract (signer : Address) (data : Bytes) (h : data.length < limit 64) :
      Built (.ofContract signer data)
  | ofBytes (signer : Address) (data : Bytes) (h : data.length < limit 64) :
      Built (.ofBytes signer data)

/-- A signature of a contract, or one of a key that fills its slot. -/
structure Regular (s : OwnerSignature) : Prop where
  length_eq : s.isContract = false → s.data.length = slotSize
  length_lt : s.data.length < limit 64

theorem Built.regular {s : OwnerSignature} (h : s.Built) : s.Regular := by
  cases h with
  | ofKey signer signature =>
    have hlen : signature.toBytes.length = 65 := signature.length_toBytes
    refine ⟨fun _ => hlen, ?_⟩
    show signature.toBytes.length < limit 64
    rw [hlen, limit_64]
    omega
  | ofContract signer data hlt => exact ⟨fun hfalse => Bool.noConfusion hfalse, hlt⟩
  | ofBytes signer data hlt =>
    refine ⟨fun hfalse => ?_, hlt⟩
    have hsize : ¬ data.length ≠ slotSize := of_decide_eq_false hfalse
    exact Decidable.not_not.mp hsize

theorem slot_of_contract {s : OwnerSignature} (h : s.isContract = true) (offset : Nat) :
    s.slot offset
      = Bytes.zeros 12 ++ s.signer.toBytes ++ Bytes.ofNat 32 offset ++ [0] := by
  rw [slot, if_pos h]

theorem slot_of_key {s : OwnerSignature} (h : s.isContract = false) (offset : Nat) :
    s.slot offset = s.data := by
  simp [slot, h]

theorem entry_of_contract {s : OwnerSignature} (h : s.isContract = true) :
    s.entry = Bytes.ofNat 32 s.data.length ++ s.data := by
  rw [entry, if_pos h]

theorem entry_of_key {s : OwnerSignature} (h : s.isContract = false) : s.entry = [] := by
  simp [entry, h]

theorem length_slot {s : OwnerSignature} (h : s.Regular) (offset : Nat) :
    (s.slot offset).length = slotSize := by
  cases hc : s.isContract with
  | false => rw [slot_of_key hc, h.length_eq hc]
  | true =>
    rw [slot_of_contract hc]
    simp [slotSize]

theorem length_entry (s : OwnerSignature) :
    s.entry.length = if s.isContract then 32 + s.data.length else 0 := by
  cases hc : s.isContract with
  | false => simp [entry_of_key hc]
  | true => simp [entry_of_contract hc]

end OwnerSignature

open OwnerSignature (Regular)

/-! ### How many owners there are -/

/-- Between an owner and the largest address there is room for the owners that follow. -/
theorem length_add_le_of_ascending {entries : List OwnerSignature} (h : Ascending entries)
    {least : Nat} (hleast : ∀ s ∈ entries, least ≤ s.signer.bits.toNat)
    (hle : least ≤ limit 160) : entries.length + least ≤ limit 160 := by
  induction entries generalizing least with
  | nil => simpa using hle
  | cons s rest ih =>
    obtain ⟨hfirst, hrest⟩ := List.pairwise_cons.mp h
    have hs : least ≤ s.signer.bits.toNat := hleast s List.mem_cons_self
    have hlt : s.signer.bits.toNat < limit 160 := s.signer.bits.isLt
    -- Whoever follows `s` is above it, by one at least.
    have habove : ∀ t ∈ rest, s.signer.bits.toNat + 1 ≤ t.signer.bits.toNat := fun t ht =>
      BitVec.lt_def.mp (hfirst t ht)
    have hnext := ih hrest habove hlt
    rw [List.length_cons]
    omega

theorem length_le_of_ascending {entries : List OwnerSignature} (h : Ascending entries) :
    entries.length ≤ limit 160 :=
  length_add_le_of_ascending h (fun _ _ => Nat.zero_le _) (Nat.zero_le _)

theorem pairwise_toBytes_lt {entries : List OwnerSignature} (h : Ascending entries) :
    entries.Pairwise fun a b => a.signer.toBytes < b.signer.toBytes := by
  refine List.Pairwise.imp (fun {a b} hlt => ?_) h
  -- Addresses have the same number of bytes, so the numbers they spell decide.
  refine Bytes.lt_of_toNat_lt (by simp) ?_
  rw [Address.toNat_toBytes, Address.toNat_toBytes]
  exact BitVec.lt_def.mp hlt

/-! ### Cutting the encoding -/

namespace SignatureSet

/-- The entries of signatures, one after another. -/
def entriesBytes (entries : List OwnerSignature) : Bytes :=
  entries.flatMap OwnerSignature.entry

/-- Where the entry of the signature behind `before` starts if there are `n` slots. -/
def entryOffset (n : Nat) (before : List OwnerSignature) : Nat :=
  slotSize * n + (entriesBytes before).length

theorem length_slots {entries : List OwnerSignature} (h : ∀ s ∈ entries, s.Regular)
    (offset : Nat) : (slots offset entries).length = slotSize * entries.length := by
  induction entries generalizing offset with
  | nil => rfl
  | cons s rest ih =>
    have hs := OwnerSignature.length_slot (h s List.mem_cons_self) offset
    have hrest := ih (fun t ht => h t (List.mem_cons_of_mem s ht)) (offset + s.entry.length)
    rw [slots, List.length_append, List.length_cons, hs, hrest, Nat.mul_succ, Nat.add_comm]

/-- Slots can be written in two parts: the second part starts at the offset that the entries
of the first one lead to. -/
theorem slots_append (offset : Nat) (before after : List OwnerSignature) :
    slots offset (before ++ after)
      = slots offset before ++ slots (offset + (entriesBytes before).length) after := by
  induction before generalizing offset with
  | nil => rfl
  | cons s rest ih =>
    rw [List.cons_append, slots, slots, ih, List.append_assoc]
    simp only [entriesBytes, List.flatMap_cons, List.length_append, Nat.add_assoc]

/-- The encoding, cut at a signature's slot and at its entry. -/
theorem encode_eq_of_entries {set : SignatureSet} {before after : List OwnerSignature}
    {s : OwnerSignature} (h : set.entries = before ++ s :: after) :
    set.encode
      = slots (slotSize * set.size) before ++ s.slot (entryOffset set.size before)
        ++ slots (entryOffset set.size before + s.entry.length) after
        ++ entriesBytes before ++ s.entry ++ entriesBytes after := by
  have hslots : slots (slotSize * set.size) (before ++ s :: after)
      = slots (slotSize * set.size) before ++ s.slot (entryOffset set.size before)
        ++ slots (entryOffset set.size before + s.entry.length) after := by
    rw [slots_append, slots, List.append_assoc]
    rfl
  have hentries : entriesBytes (before ++ s :: after)
      = entriesBytes before ++ s.entry ++ entriesBytes after := by
    simp [entriesBytes, List.append_assoc]
  show slots (slotSize * set.size) set.entries ++ entriesBytes set.entries = _
  rw [h, hslots, hentries]
  simp only [List.append_assoc]

/-- The size of the encoding: the slots, and a size and the data for every contract. -/
theorem length_encode {set : SignatureSet} (h : ∀ s ∈ set.entries, s.Regular) :
    set.encode.length
      = slotSize * set.size
        + ((set.entries.filter OwnerSignature.isContract).map fun s => 32 + s.data.length).sum := by
  have hentries : ∀ entries : List OwnerSignature, (entriesBytes entries).length
      = ((entries.filter OwnerSignature.isContract).map fun s => 32 + s.data.length).sum := by
    intro entries
    induction entries with
    | nil => rfl
    | cons s rest ih =>
      have hcons : (entriesBytes (s :: rest)).length
          = s.entry.length + (entriesBytes rest).length := by
        simp [entriesBytes]
      rw [hcons, ih, OwnerSignature.length_entry]
      cases hc : s.isContract <;> simp [hc]
  show (slots (slotSize * set.size) set.entries ++ entriesBytes set.entries).length = _
  rw [List.length_append, length_slots h, hentries]
  rfl

/-- Every offset and every size in an encoding can be written with 256 bits. -/
theorem length_encode_lt {set : SignatureSet} (h : ∀ s ∈ set.entries, s.Regular) :
    set.encode.length < limit 256 := by
  have hentries : ∀ entries : List OwnerSignature, (∀ s ∈ entries, s.Regular) →
      (entriesBytes entries).length ≤ entries.length * (32 + limit 64) := by
    intro entries hregular
    induction entries with
    | nil => exact Nat.zero_le _
    | cons s rest ih =>
      have hs := (hregular s List.mem_cons_self).length_lt
      have hrest := ih fun t ht => hregular t (List.mem_cons_of_mem s ht)
      have hentry : s.entry.length ≤ 32 + limit 64 := by
        rw [OwnerSignature.length_entry]
        split <;> omega
      simp only [entriesBytes, List.flatMap_cons, List.length_append, List.length_cons] at hrest ⊢
      rw [Nat.add_mul, Nat.one_mul]
      omega
  -- There are no more entries than addresses, which bounds slots and entries together.
  have hsize : set.entries.length ≤ limit 160 := length_le_of_ascending set.ascending
  have hbytes := hentries set.entries h
  have hmul : set.entries.length * (32 + limit 64) ≤ limit 160 * (32 + limit 64) :=
    Nat.mul_le_mul_right _ hsize
  have hroom : slotSize * limit 160 + limit 160 * (32 + limit 64) < limit 256 := by decide
  have hslots : slotSize * set.entries.length ≤ slotSize * limit 160 :=
    Nat.mul_le_mul_left _ hsize
  show (slots (slotSize * set.size) set.entries ++ entriesBytes set.entries).length < limit 256
  rw [List.length_append, length_slots h]
  omega

/-! ### What the account reads -/

/-- The offset that the `i`-th slot of an encoding names, if it is a contract's. -/
def offsetAt (encoded : Bytes) (i : Nat) : Nat :=
  encoded.wordAt (slotSize * i + 32)

/-- The signature `s` is what one reads from the `i`-th of `n` slots. -/
structure SlotReads (encoded : Bytes) (n i : Nat) (s : OwnerSignature) : Prop where
  key : s.isContract = false →
    s.data.length = slotSize ∧ encoded.slice (slotSize * i) slotSize = s.data
  contract : s.isContract = true →
    encoded.slice (slotSize * i) slotSize
        = Bytes.zeros 12 ++ s.signer.toBytes ++ Bytes.ofNat 32 (offsetAt encoded i) ++ [0]
      ∧ slotSize * n ≤ offsetAt encoded i
      ∧ offsetAt encoded i + 32 + s.data.length ≤ encoded.length
      ∧ encoded.wordAt (offsetAt encoded i) = s.data.length
      ∧ encoded.slice (offsetAt encoded i + 32) s.data.length = s.data

/-- Regions, each a start and a size, that follow each other from one point to another. -/
def Tiles : Nat → List (Nat × Nat) → Nat → Prop
  | start, [], stop => start = stop
  | start, region :: regions, stop => region.1 = start ∧ Tiles (start + region.2) regions stop

/-- The regions that the slots of contracts name, from the `i`-th slot on. -/
def entryRegions (encoded : Bytes) (i : Nat) : List OwnerSignature → List (Nat × Nat)
  | [] => []
  | s :: ss =>
    if s.isContract then
      (offsetAt encoded i, 32 + s.data.length) :: entryRegions encoded (i + 1) ss
    else entryRegions encoded (i + 1) ss

/-- Signatures are what one reads from their encoding: slots in the order of the owners, and
the entries of the contracts right behind them. -/
structure Readable (entries : List OwnerSignature) (encoded : Bytes) : Prop where
  ascending : entries.Pairwise fun a b => a.signer.toBytes < b.signer.toBytes
  slot : ∀ i (hi : i < entries.length), SlotReads encoded entries.length i entries[i]
  tiles : Tiles (slotSize * entries.length) (entryRegions encoded 0 entries) encoded.length
  length_eq : encoded.length = slotSize * entries.length
    + ((entries.filter OwnerSignature.isContract).map fun s => 32 + s.data.length).sum

section Reading

variable {set : SignatureSet} {before after : List OwnerSignature} {s : OwnerSignature}

/-- Where the entry behind `before` starts can be written with 256 bits, and the entry ends
within the encoding. -/
theorem entryOffset_add_le (hregular : ∀ t ∈ set.entries, t.Regular)
    (h : set.entries = before ++ s :: after) :
    entryOffset set.size before + s.entry.length ≤ set.encode.length := by
  show _ ≤ (slots (slotSize * set.size) set.entries ++ entriesBytes set.entries).length
  have hentries : (entriesBytes set.entries).length
      = (entriesBytes before).length + s.entry.length + (entriesBytes after).length := by
    rw [h]
    simp [entriesBytes, Nat.add_assoc]
  rw [List.length_append, length_slots hregular, hentries, entryOffset]
  show _ ≤ slotSize * set.size + _
  omega

/-- A signature's slot is found behind the slots of the signatures before it. -/
theorem slice_slot (hregular : ∀ t ∈ set.entries, t.Regular)
    (h : set.entries = before ++ s :: after) :
    set.encode.slice (slotSize * before.length) slotSize
      = s.slot (entryOffset set.size before) := by
  have hbefore : ∀ t ∈ before, t.Regular := fun t ht =>
    hregular t (by rw [h]; exact List.mem_append_left _ ht)
  have hs : s.Regular := hregular s (by rw [h]; simp)
  have hcut := encode_eq_of_entries h
  simp only [List.append_assoc] at hcut
  rw [hcut, ← List.append_assoc]
  exact Bytes.slice_middle (length_slots hbefore _) (OwnerSignature.length_slot hs _)

theorem slice_entry (hregular : ∀ t ∈ set.entries, t.Regular)
    (h : set.entries = before ++ s :: after) :
    set.encode.slice (entryOffset set.size before) s.entry.length = s.entry := by
  have hslots := length_slots hregular (slotSize * set.size)
  have hfront : (slots (slotSize * set.size) set.entries ++ entriesBytes before).length
      = entryOffset set.size before := by
    rw [List.length_append, hslots]
    rfl
  have hcut : set.encode = slots (slotSize * set.size) set.entries ++ entriesBytes before
      ++ s.entry ++ entriesBytes after := by
    show slots (slotSize * set.size) set.entries ++ entriesBytes set.entries = _
    have hentries : entriesBytes set.entries
        = entriesBytes before ++ (s.entry ++ entriesBytes after) := by
      rw [h]
      simp [entriesBytes]
    rw [hentries]
    simp only [List.append_assoc]
  rw [hcut]
  exact Bytes.slice_middle hfront rfl

/-- The slot of a contract names where its entry starts. -/
theorem offsetAt_of_contract (hregular : ∀ t ∈ set.entries, t.Regular)
    (h : set.entries = before ++ s :: after) (hc : s.isContract = true) :
    offsetAt set.encode before.length = entryOffset set.size before := by
  have hlt : entryOffset set.size before < limit 256 := by
    have hle := entryOffset_add_le hregular h
    have hlength := length_encode_lt hregular
    omega
  have hfront : (Bytes.zeros 12 ++ s.signer.toBytes).length = 32 := by simp
  have hinside : 32 + 32 ≤ slotSize := by decide
  rw [offsetAt, ← Bytes.wordAt_slice hinside, slice_slot hregular h,
    OwnerSignature.slot_of_contract hc]
  exact Bytes.wordAt_middle hfront hlt

/-- A signature is read from the slot that stands where it stands in the set. -/
theorem slotReads_of_entries (hregular : ∀ t ∈ set.entries, t.Regular)
    (h : set.entries = before ++ s :: after) :
    SlotReads set.encode set.size before.length s := by
  have hs : s.Regular := hregular s (by rw [h]; simp)
  refine ⟨fun hc => ⟨hs.length_eq hc, ?_⟩, fun hc => ?_⟩
  · rw [slice_slot hregular h, OwnerSignature.slot_of_key hc]
  · have hoffset := offsetAt_of_contract hregular h hc
    have hentry := OwnerSignature.entry_of_contract hc
    have hlength : s.entry.length = 32 + s.data.length := by simp [hentry]
    have hsize : s.data.length < limit 256 :=
      Nat.lt_trans hs.length_lt (by decide)
    have hend := entryOffset_add_le hregular h
    have hpart := slice_entry hregular h
    rw [hoffset]
    refine ⟨?_, Nat.le_add_right _ _, by omega, ?_, ?_⟩
    · rw [slice_slot hregular h, OwnerSignature.slot_of_contract hc]
    · -- The first 32 bytes of an entry are the size of the data, the others the data.
      have hword : s.entry.wordAt 0 = s.data.length := by
        rw [hentry, ← List.nil_append (Bytes.ofNat 32 s.data.length)]
        exact Bytes.wordAt_middle List.length_nil hsize
      rw [← hpart, Bytes.wordAt_slice (by omega)] at hword
      exact hword
    · have hdata : s.entry.slice 32 s.data.length = s.data := by
        rw [hentry, ← List.append_nil (_ ++ s.data)]
        exact Bytes.slice_middle (Bytes.length_ofNat 32 s.data.length) rfl
      rw [← hpart, Bytes.slice_slice (by omega)] at hdata
      exact hdata

/-- The entries of the signatures behind `before` fill the encoding from where the first of
them starts to its end. -/
theorem tiles_of_entries (hregular : ∀ t ∈ set.entries, t.Regular)
    (h : set.entries = before ++ after) :
    Tiles (entryOffset set.size before) (entryRegions set.encode before.length after)
      set.encode.length := by
  induction after generalizing before with
  | nil =>
    show entryOffset set.size before
      = (slots (slotSize * set.size) set.entries ++ entriesBytes set.entries).length
    rw [List.length_append, length_slots hregular, h, List.append_nil, entryOffset]
    rw [List.append_nil] at h
    rw [← h]
    rfl
  | cons s rest ih =>
    have hnext : set.entries = (before ++ [s]) ++ rest := by simpa using h
    have hrest := ih hnext
    have hstart : entryOffset set.size (before ++ [s])
        = entryOffset set.size before + s.entry.length := by
      simp [entryOffset, entriesBytes, Nat.add_assoc]
    rw [hstart, OwnerSignature.length_entry, List.length_append, List.length_singleton] at hrest
    -- A key has no entry, so the next one starts at the same place.
    cases hc : s.isContract with
    | false => simpa [entryRegions, hc] using hrest
    | true =>
      rw [entryRegions, if_pos hc]
      rw [if_pos hc] at hrest
      exact ⟨offsetAt_of_contract hregular h hc, hrest⟩

/-- What the account reads from the encoding of a set are the signatures of the set. -/
theorem readable_encode (hregular : ∀ t ∈ set.entries, t.Regular) :
    Readable set.entries set.encode where
  ascending := pairwise_toBytes_lt set.ascending
  slot i hi := by
    have hcut : set.entries = set.entries.take i ++ set.entries[i] :: set.entries.drop (i + 1) := by
      rw [List.getElem_cons_drop, List.take_append_drop]
    have hread := slotReads_of_entries hregular hcut
    rwa [List.length_take, Nat.min_eq_left (Nat.le_of_lt hi)] at hread
  tiles := tiles_of_entries hregular (List.nil_append set.entries).symm
  length_eq := length_encode hregular

end Reading

/-! ### All sets -/

theorem regular_ofList {signatures : List OwnerSignature} (h : ∀ s ∈ signatures, s.Built) :
    ∀ s ∈ (ofList signatures).entries, s.Regular := by
  intro s hs
  obtain ⟨before, after, rfl, -⟩ := mem_ofList_iff.mp hs
  exact (h s (by simp)).regular

/-- The set has as many signatures as different owners signed. -/
theorem size_ofList (signatures : List OwnerSignature) :
    (ofList signatures).size = (signatures.map OwnerSignature.signer).dedup.length := by
  have hnodup : ((ofList signatures).entries.map OwnerSignature.signer).Nodup := by
    rw [List.Nodup, List.pairwise_map]
    exact (ofList signatures).ascending.imp signer_ne_of_lt
  have hperm : ((ofList signatures).entries.map OwnerSignature.signer).Perm
      (signatures.map OwnerSignature.signer).dedup := by
    refine (List.perm_ext_iff_of_nodup hnodup (List.nodup_dedup _)).mpr fun owner => ?_
    rw [List.mem_dedup, List.mem_map, List.mem_map]
    exact exists_signer_ofList
  rw [← hperm.length_eq, List.length_map]
  rfl

/-- Whatever signatures are added one after another, the account reads from the encoding the
last one of each owner: `n` slots for `n` owners, in the order of the owners' bytes, and behind
them, without a gap, the entries that the slots of contracts name. -/
theorem readable_encode_ofList (signatures : List OwnerSignature)
    (hbuilt : ∀ s ∈ signatures, s.Built) :
    (ofList signatures).size = (signatures.map OwnerSignature.signer).dedup.length
      ∧ (∀ s, s ∈ (ofList signatures).entries ↔
          ∃ before after, signatures = before ++ s :: after ∧ ∀ t ∈ after, t.signer ≠ s.signer)
      ∧ Readable (ofList signatures).entries (ofList signatures).encode :=
  ⟨size_ofList signatures, fun _ => mem_ofList_iff, readable_encode (regular_ofList hbuilt)⟩

/-- Two contracts and a key, where the first contract signed twice. -/
def sample : List OwnerSignature :=
  [.ofContract ⟨7⟩ [1, 2, 3], .ofKey ⟨5⟩ ⟨17, 19, true⟩, .ofBytes ⟨9⟩ [8], .ofContract ⟨7⟩ [4, 5]]

/-- The statement holds of something: three owners' signatures are read. -/
theorem readable_encode_ofList_sample :
    (∀ s ∈ sample, s.Built)
      ∧ (ofList sample).size = 3
      ∧ Readable (ofList sample).entries (ofList sample).encode := by
  have hbuilt : ∀ s ∈ sample, s.Built := by
    intro s hs
    simp only [sample, List.mem_cons, List.not_mem_nil, or_false] at hs
    rcases hs with rfl | rfl | rfl | rfl
    · exact .ofContract _ _ (by decide)
    · exact .ofKey _ _
    · exact .ofBytes _ _ (by decide)
    · exact .ofContract _ _ (by decide)
  obtain ⟨hsize, -, hread⟩ := readable_encode_ofList sample hbuilt
  exact ⟨hbuilt, hsize.trans (by decide), hread⟩

end SignatureSet

end SafeOps
