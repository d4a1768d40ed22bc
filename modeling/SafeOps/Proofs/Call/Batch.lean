import SafeOps.Call.Batch
import SafeOps.Proofs.Call.MultiSend

/-!
# `SafeOps.Proofs.Call.Batch`: the calls an operation performs can be read from its data

`decode_execute` opens the one call of the module, and `decode_encode_calls` is the main
statement: any calls come back in their order, whatever bytes follow the data. What reads the
data guesses from the first bytes of a delegate call whether it stands for several, so a single
call that has those bytes (`ReadsAsBatch`) is the only exception.

More than one call go through a batching contract, which is part of the statement: the account
runs the code of the general one as soon as a call asks it to run code, and otherwise the code
of the one that performs calls only.
-/

set_option autoImplicit false

namespace SafeOps.Call

/-- A call that is taken for several calls when it is read from the data of an operation. -/
def ReadsAsBatch (c : Call) : Prop :=
  c.mode = .delegateCall ∧ Contract.multiSend.selector <+: c.data

namespace Batch

theorem decode_execute (c : Call) (suffix : Bytes) (h : (execute c).length < limit 64) :
    Contract.executeUserOp.decode (execute c ++ suffix)
      = .ok (c.target, c.value, c.data, c.mode.toByte.toBitVec, ()) :=
  Abi.Function.decode_encode (by decide) _ suffix h

/-- The data of the call are shorter than the call around them. -/
theorem length_data_le (c : Call) : c.data.length ≤ (execute c).length := by
  have hpad : c.data.length ≤ (Bytes.pad32 c.data).length := by
    rw [Bytes.pad32, List.length_append]
    omega
  rw [execute, Abi.Function.encode, List.length_append, Abi.length_encode]
  simp only [Abi.tails, Abi.Ty.tail, List.length_append]
  omega

/-- What becomes of the one call that stands in the data. -/
theorem decode_of_call {data inner : Bytes} {target : Address} {value : Word} {mode : CallMode}
    (h : Contract.executeUserOp.decode data
      = .ok (target, value, inner, mode.toByte.toBitVec, ())) :
    decode data = if mode = .delegateCall ∧ Contract.multiSend.selector <+: inner
      then MultiSend.decode inner else .ok [⟨target, value, inner, mode⟩] := by
  have hmode : CallMode.ofByte ⟨mode.toByte.toBitVec⟩ = .ok mode := CallMode.ofByte_toByte mode
  rw [decode, h]
  show (CallMode.ofByte ⟨mode.toByte.toBitVec⟩ >>= fun m => _) = _
  rw [hmode]
  simp only [List.isPrefixOf_iff_prefix]
  rfl

theorem decode_execute_single {c : Call} (hc : ¬ c.ReadsAsBatch) (suffix : Bytes)
    (h : (execute c).length < limit 64) : decode (execute c ++ suffix) = .ok [c] := by
  rw [decode_of_call (decode_execute c suffix h)]
  exact if_neg hc

theorem decode_execute_combine (batchers : Batchers) (calls : List Call) (suffix : Bytes)
    (h : (execute (combine batchers calls)).length < limit 64) :
    decode (execute (combine batchers calls) ++ suffix) = .ok calls := by
  have hinner : (MultiSend.encode calls).length < limit 64 :=
    Nat.lt_of_le_of_lt (length_data_le (combine batchers calls)) h
  have hbatch : (combine batchers calls).ReadsAsBatch :=
    ⟨rfl, MultiSend.selector_prefix_encode calls⟩
  rw [decode_of_call (decode_execute _ suffix h)]
  exact (if_pos hbatch).trans (MultiSend.decode_encode hinner)

/-- The contract that performs several calls of which some may be delegate calls. -/
theorem combine_target (batchers : Batchers) (calls : List Call) :
    (combine batchers calls).target
      = if ∃ c ∈ calls, c.mode = .delegateCall then batchers.general else batchers.callOnly := by
  simp only [combine, delegate, List.any_eq_true, decide_eq_true_eq]

/-- Calls come back in their order from the data that have the account perform them, and more
than one go through one delegate call of the batching contract that can perform them all. -/
theorem decode_encode_calls (batchers : Batchers) {calls : List Call} (hne : calls ≠ [])
    (hbatch : ∀ c, calls = [c] → ¬ c.ReadsAsBatch) :
    ∃ data, encode batchers calls = .ok data ∧
      (data.length < limit 64 → ∀ suffix,
        decode (data ++ suffix) = .ok calls ∧
        (2 ≤ calls.length →
          Contract.executeUserOp.decode (data ++ suffix)
            = .ok (if ∃ c ∈ calls, c.mode = .delegateCall then batchers.general
                else batchers.callOnly,
              0, MultiSend.encode calls, CallMode.delegateCall.toByte.toBitVec, ()))) := by
  match calls with
  | [] => exact absurd rfl hne
  | [c] =>
    refine ⟨execute c, rfl, fun hlength suffix => ⟨?_, fun htwo => ?_⟩⟩
    · exact decode_execute_single (hbatch c rfl) suffix hlength
    · exact absurd htwo (Nat.not_succ_le_self 1)
  | c :: c' :: rest =>
    refine ⟨execute (combine batchers (c :: c' :: rest)), rfl, fun hlength suffix => ⟨?_, ?_⟩⟩
    · exact decode_execute_combine batchers (c :: c' :: rest) suffix hlength
    · intro _
      rw [decode_execute _ suffix hlength, combine_target]
      rfl

theorem decode_encode_calls_mixed :
    ∃ data, encode ⟨⟨3⟩, ⟨4⟩⟩ [plain ⟨1⟩ [1, 2, 3], delegate ⟨2⟩ [5]] = .ok data ∧
      data.length < limit 64 ∧
      decode (data ++ [7]) = .ok [plain ⟨1⟩ [1, 2, 3], delegate ⟨2⟩ [5]] ∧
      Contract.executeUserOp.decode (data ++ [7])
        = .ok (⟨3⟩, 0, MultiSend.encode [plain ⟨1⟩ [1, 2, 3], delegate ⟨2⟩ [5]], 1, ()) := by
  obtain ⟨data, hdata, hread⟩ := @decode_encode_calls ⟨⟨3⟩, ⟨4⟩⟩
    [plain ⟨1⟩ [1, 2, 3], delegate ⟨2⟩ [5]] (by decide) (by simp)
  have hlength : data.length < limit 64 := by
    cases hdata
    decide +kernel
  obtain ⟨hcalls, hcall⟩ := hread hlength [7]
  exact ⟨data, hdata, hlength, hcalls, hcall (by decide)⟩

end Batch

end SafeOps.Call
