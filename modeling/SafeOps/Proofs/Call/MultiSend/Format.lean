import SafeOps.Proofs.Call.MultiSend

/-!
# `SafeOps.Proofs.Call.MultiSend.Format`: packed calls have one written form

Bytes that come from outside may be cut off anywhere, name a mode that does not exist, or announce
more data than there are, up to a size that no machine holds. `Broken` lists what can be wrong with
a packed call, each with the error that says so. Any bytes are packed calls up to some place, and
there they end or are broken (`exists_split`): either the header at the front can be read, and with
it the call or its fault, or there is none.

So taking apart succeeds exactly on what packing gives, and fails exactly behind the last call that
is whole (`unpack_eq_ok_iff`, `unpack_eq_error_iff`). `unpack_exact` is both in one.
-/

set_option autoImplicit false

namespace SafeOps.Call.MultiSend

/-- What is wrong with the packed call at the front of some bytes. -/
inductive Broken : Bytes → CallError → Prop where
  /-- There are bytes, but not as many as a header takes. -/
  | header {rest : Bytes} (hne : rest ≠ []) (h : rest.length < headerSize) :
    Broken rest (.malformed (.truncatedHeader rest.length))
  /-- The first byte of a header is no mode. -/
  | mode {byte : UInt8} {rest : Bytes} (hlong : headerSize ≤ (byte :: rest).length)
    (h : ∀ m : CallMode, byte ≠ m.toByte) : Broken (byte :: rest) (.unknownMode byte)
  /-- The size in the header is none of a machine. -/
  | size {m : CallMode} {target : Address} {value : Word} {size : Nat} {rest : Bytes}
    (hfits : size < limit 256) (h : limit 64 ≤ size) :
    Broken (MultiSend.header m target value size ++ rest) (.malformed .sizeTooLarge)
  /-- There are fewer data than the header says. -/
  | data {m : CallMode} {target : Address} {value : Word} {size : Nat} {rest : Bytes}
    (hsize : size < limit 64) (h : rest.length < size) :
    Broken (MultiSend.header m target value size ++ rest)
      (.malformed (.missingData size rest.length))

/-- An error says which byte is no mode, or that the bytes are malformed. -/
theorem Broken.kind {rest : Bytes} {e : CallError} (h : Broken rest e) :
    (∃ byte, e = .unknownMode byte) ∨ ∃ fault, e = .malformed fault := by
  cases h with
  | mode hlong h => exact Or.inl ⟨_, rfl⟩
  | header hne h => exact Or.inr ⟨_, rfl⟩
  | size hfits h => exact Or.inr ⟨_, rfl⟩
  | data hsize h => exact Or.inr ⟨_, rfl⟩

theorem Broken.ne_nil {rest : Bytes} {e : CallError} (h : Broken rest e) : rest ≠ [] := by
  cases h with
  | header hne h => exact hne
  | mode hlong h => exact List.cons_ne_nil _ _
  | size hfits h => exact List.cons_ne_nil _ _
  | data hsize h => exact List.cons_ne_nil _ _

/-! ### Reading what is broken -/

theorem ofByte_of_ne {byte : UInt8} (h : ∀ m : CallMode, byte ≠ m.toByte) :
    CallMode.ofByte byte = .error (.unknownMode byte) := by
  have hcall : byte ≠ 0 := h .call
  have hdelegate : byte ≠ 1 := h .delegateCall
  rw [CallMode.ofByte, if_neg hcall, if_neg hdelegate]

/-- A broken call is refused with the error that says what is wrong. -/
theorem Broken.unpackOne_eq {rest : Bytes} {e : CallError} (h : Broken rest e) :
    unpackOne rest = .error e := by
  cases h with
  | header hne h => exact if_pos h
  | mode hlong h => rw [unpackOne, if_neg (Nat.not_lt.mpr hlong), List.headD_cons, ofByte_of_ne h]
  | size hfits h => rw [unpackOne_header_append _ _ _ hfits, if_pos h]
  | data hsize h =>
    have hfits := Nat.lt_of_lt_of_le hsize (limit_le_limit (show 64 ≤ 256 by decide))
    rw [unpackOne_header_append _ _ _ hfits, if_neg (Nat.not_le.mpr hsize), if_pos h]

theorem Broken.unpack_eq {rest : Bytes} {e : CallError} (h : Broken rest e) :
    unpack rest = .error e := by
  have hempty : ¬ rest.isEmpty = true := by
    rw [List.isEmpty_iff]
    exact h.ne_nil
  rw [unpack, if_neg hempty]
  split
  · next herror =>
    rw [h.unpackOne_eq] at herror
    cases herror
    rfl
  · next hok =>
    rw [h.unpackOne_eq] at hok
    cases hok

/-! ### Where bytes stop being packed calls -/

/-- Bytes that are long enough begin with a header, if their first byte is a mode. -/
theorem header_or_unknownMode {packed : Bytes} (hlong : headerSize ≤ packed.length) :
    (∃ byte rest, packed = byte :: rest ∧ ∀ m : CallMode, byte ≠ m.toByte)
    ∨ ∃ mode target value size rest, size < limit 256
      ∧ packed = header mode target value size ++ rest := by
  obtain ⟨byte, tail, rfl⟩ : ∃ byte tail, packed = byte :: tail :=
    List.exists_cons_of_length_pos (Nat.lt_of_lt_of_le (by decide) hlong)
  by_cases hmode : ∃ m : CallMode, byte = m.toByte
  · obtain ⟨mode, rfl⟩ := hmode
    have hlength : 84 ≤ tail.length := Nat.le_of_succ_le_succ hlong
    -- The parts of the header are those that its length leaves no choice for.
    have htarget : (tail.take 20).length = 20 := by
      rw [List.length_take]
      omega
    have hvalue : ((tail.drop 20).take 32).length = 32 := by
      rw [List.length_take, List.length_drop]
      omega
    have hsize : ((tail.drop 52).take 32).length = 32 := by
      rw [List.length_take, List.length_drop]
      omega
    have hfits := Bytes.toNat_lt ((tail.drop 52).take 32)
    have hsizeBytes := Bytes.ofNat_toNat ((tail.drop 52).take 32)
    rw [hsize] at hfits hsizeBytes
    refine Or.inr ⟨mode, Address.ofBytes (tail.take 20), Bytes.toBits 256 ((tail.drop 20).take 32),
      Bytes.toNat ((tail.drop 52).take 32), tail.drop 84, hfits, ?_⟩
    rw [header, Address.toBytes_ofBytes htarget, Bytes.ofBits_toBits hvalue rfl, hsizeBytes]
    -- They follow each other, so they are joined from the back.
    have hback : (tail.drop 52).take 32 ++ tail.drop 84 = tail.drop 52 :=
      Bytes.slice_append_drop tail 52 32
    have hmiddle : (tail.drop 20).take 32 ++ tail.drop 52 = tail.drop 20 :=
      Bytes.slice_append_drop tail 20 32
    rw [List.cons_append, List.cons_append, List.cons_append, List.append_assoc, List.append_assoc,
      hback, hmiddle, List.take_append_drop]
  · exact Or.inl ⟨byte, tail, rfl, not_exists.mp hmode⟩

/-- At the front of bytes there is a whole call, or they are broken. -/
theorem packOne_or_broken {packed : Bytes} (hne : packed ≠ []) :
    (∃ c rest, c.data.length < limit 64 ∧ packed = packOne c ++ rest) ∨ ∃ e, Broken packed e := by
  rcases Nat.lt_or_ge packed.length headerSize with hshort | hlong
  · exact Or.inr ⟨_, .header hne hshort⟩
  · rcases header_or_unknownMode hlong with ⟨byte, rest, rfl, hmode⟩
      | ⟨mode, target, value, size, rest, hfits, rfl⟩
    · exact Or.inr ⟨_, .mode hlong hmode⟩
    · rcases Nat.lt_or_ge size (limit 64) with hsize | hlarge
      · rcases Nat.lt_or_ge rest.length size with hmissing | hroom
        · exact Or.inr ⟨_, .data hsize hmissing⟩
        · -- The data are there, so they make a call together with the header.
          have hlength : (rest.take size).length = size := List.length_take_of_le hroom
          refine Or.inl ⟨⟨target, value, rest.take size, mode⟩, rest.drop size, ?_, ?_⟩
          · exact hlength.symm ▸ hsize
          · rw [packOne_eq, List.append_assoc]
            show _ = header mode target value (rest.take size).length
              ++ (rest.take size ++ rest.drop size)
            rw [hlength, List.take_append_drop]
      · exact Or.inr ⟨_, .size hfits hlarge⟩

/-- Any bytes are packed calls up to some place. There they end, or they are broken. -/
theorem exists_split (packed : Bytes) :
    ∃ calls rest, packed = pack calls ++ rest ∧ (∀ c ∈ calls, c.data.length < limit 64)
      ∧ (rest = [] ∨ ∃ e, Broken rest e) := by
  -- Every whole call uses up some bytes.
  induction hlength : packed.length using Nat.strongRecOn generalizing packed with
  | ind n ih =>
    by_cases hne : packed = []
    · exact ⟨[], packed, rfl, nofun, Or.inl hne⟩
    · rcases packOne_or_broken hne with ⟨c, rest, hc, rfl⟩ | hbroken
      · have hless : rest.length < n := by
          rw [← hlength, List.length_append, length_packOne, headerSize]
          omega
        obtain ⟨calls, rest', rfl, hcalls, hrest⟩ := ih rest.length hless rest rfl
        refine ⟨c :: calls, rest', ?_, List.forall_mem_cons.mpr ⟨hc, hcalls⟩, hrest⟩
        rw [pack_cons, List.append_assoc]
      · exact ⟨[], packed, rfl, nofun, Or.inr hbroken⟩

/-- Bytes with a broken call behind whole ones are refused because of it. -/
theorem unpack_of_broken {calls : List Call} (hcalls : ∀ c ∈ calls, c.data.length < limit 64)
    {rest : Bytes} {e : CallError} (h : Broken rest e) :
    unpack (pack calls ++ rest) = .error e := by
  rw [unpack_pack_append hcalls, h.unpack_eq]
  rfl

/-! ### Exactness -/

variable {packed : Bytes}

/-- Taking apart succeeds exactly on what packing gives. -/
theorem unpack_eq_ok_iff (h : packed.length < limit 64) {calls : List Call} :
    unpack packed = .ok calls ↔ packed = pack calls := by
  constructor
  · intro hok
    obtain ⟨done, rest, rfl, hdone, rfl | ⟨e, hbroken⟩⟩ := exists_split packed
    · rw [unpack_pack_append hdone, unpack_nil] at hok
      have hsame : done ++ [] = calls := Except.ok.inj hok
      rw [← hsame, List.append_nil, List.append_nil]
    · rw [unpack_of_broken hdone hbroken] at hok
      cases hok
  · rintro rfl
    exact unpack_pack h

/-- It fails exactly where a broken call stands behind whole ones, with the error of that call. -/
theorem unpack_eq_error_iff (h : packed.length < limit 64) {e : CallError} :
    unpack packed = .error e ↔ ∃ calls rest, packed = pack calls ++ rest ∧ Broken rest e := by
  constructor
  · intro herror
    obtain ⟨calls, rest, rfl, hcalls, rfl | ⟨e', hbroken⟩⟩ := exists_split packed
    · rw [unpack_pack_append hcalls, unpack_nil] at herror
      cases herror
    · rw [unpack_of_broken hcalls hbroken] at herror
      exact ⟨calls, rest, rfl, Except.error.inj herror ▸ hbroken⟩
  · rintro ⟨calls, rest, rfl, hbroken⟩
    refine unpack_of_broken (fun c hc => ?_) hbroken
    rw [List.length_append] at h
    have hdata := length_data_le_pack hc
    omega

/-- Bytes of a machine's length come apart into calls exactly if they are these calls packed. All
others are refused. The error names a byte that is no mode or says what is malformed, and it is that
of the first call that is not whole. -/
theorem unpack_exact (h : packed.length < limit 64) :
    (∀ calls, unpack packed = .ok calls ↔ packed = pack calls)
      ∧ ((∀ calls, packed ≠ pack calls) → ∃ e, unpack packed = .error e
        ∧ ((∃ byte, e = .unknownMode byte) ∨ ∃ fault, e = .malformed fault)
        ∧ ∃ calls rest, packed = pack calls ++ rest ∧ Broken rest e) := by
  refine ⟨fun calls => unpack_eq_ok_iff h, fun hnone => ?_⟩
  cases hunpack : unpack packed with
  | ok calls => exact absurd ((unpack_eq_ok_iff h).mp hunpack) (hnone calls)
  | error e =>
    obtain ⟨calls, rest, hpacked, hbroken⟩ := (unpack_eq_error_iff h).mp hunpack
    exact ⟨e, rfl, hbroken.kind, calls, rest, hpacked, hbroken⟩

/-- Two packed calls, and the same with a byte too many. -/
theorem unpack_exact_sample :
    ∃ calls : List Call, calls = [plain ⟨1⟩ [1, 2, 3], delegate ⟨2⟩ []]
      ∧ unpack (pack calls) = .ok calls
      ∧ ∃ e, unpack (pack calls ++ [0]) = .error e
        ∧ ((∃ byte, e = .unknownMode byte) ∨ ∃ fault, e = .malformed fault) := by
  let calls : List Call := [plain ⟨1⟩ [1, 2, 3], delegate ⟨2⟩ []]
  have hwhole : (pack calls).length < limit 64 := by decide +kernel
  have hcut : (pack calls ++ [0]).length < limit 64 := by decide +kernel
  obtain ⟨hok, -⟩ := unpack_exact hwhole
  obtain ⟨hok', herror⟩ := unpack_exact hcut
  refine ⟨calls, rfl, (hok calls).mpr rfl, ?_⟩
  have hnone : ∀ others, pack calls ++ [0] ≠ pack others := by
    intro others hothers
    have hread := (hok' others).mpr hothers
    rw [unpack_of_broken (by decide) (.header (by decide) (by decide))] at hread
    cases hread
  obtain ⟨e, he, hkind, -⟩ := herror hnone
  exact ⟨e, he, hkind⟩

end SafeOps.Call.MultiSend
