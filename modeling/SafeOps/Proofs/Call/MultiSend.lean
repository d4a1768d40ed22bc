import SafeOps.Call.MultiSend
import SafeOps.Proofs.Abi

/-!
# `SafeOps.Proofs.Call.MultiSend`: packed calls are taken apart again

A packed call is a `header` and the data. The header says how long the data are, so the calls that
follow need no separator. `unpackOne_header_append` is all that reading can do behind a header;
`unpackOne_packOne_append` reads one call off the front and gives back what follows.
`unpack_pack_append` is the induction over the calls that stand in front of anything else, and
`unpack_pack` its case with nothing behind them. `decode_encode` adds the call of the batching
contract around them.
-/

set_option autoImplicit false

namespace SafeOps.Call.MultiSend

/-- What stands before the data of a packed call. -/
def header (mode : CallMode) (target : Address) (value : Word) (size : Nat) : Bytes :=
  mode.toByte :: target.toBytes ++ Bytes.ofBits 32 value ++ Bytes.ofNat 32 size

theorem packOne_eq (c : Call) :
    packOne c = header c.mode c.target c.value c.data.length ++ c.data := rfl

theorem length_header (mode : CallMode) (target : Address) (value : Word) (size : Nat) :
    (header mode target value size).length = headerSize := by
  simp only [header, List.cons_append, List.length_cons, List.length_append,
    Address.length_toBytes, Bytes.length_ofBits, Bytes.length_ofNat, headerSize]

theorem length_packOne (c : Call) : (packOne c).length = headerSize + c.data.length := by
  rw [packOne_eq, List.length_append, length_header]

theorem packOne_ne_nil (c : Call) (rest : Bytes) : packOne c ++ rest ≠ [] :=
  List.cons_ne_nil _ _

theorem pack_cons (c : Call) (calls : List Call) : pack (c :: calls) = packOne c ++ pack calls :=
  List.flatMap_cons

/-! ### One call -/

/-- Behind a header there are enough bytes for the data, or the call is refused. -/
theorem unpackOne_header_append (mode : CallMode) (target : Address) (value : Word) {size : Nat}
    (hsize : size < limit 256) (rest : Bytes) :
    unpackOne (header mode target value size ++ rest)
      = if limit 64 ≤ size then .error (.malformed .sizeTooLarge)
        else if rest.length < size then .error (.malformed (.missingData size rest.length))
        else .ok (⟨target, value, rest.take size, mode⟩, rest.drop size) := by
  -- The header as a row of its parts, cut in front of each of them.
  let packed := header mode target value size ++ rest
  let targetBytes := target.toBytes
  let valueBytes := Bytes.ofBits 32 value
  let sizeBytes := Bytes.ofNat 32 size
  have hpacked : packed = mode.toByte :: (targetBytes ++ (valueBytes ++ (sizeBytes ++ rest))) := by
    simp only [packed, header, List.cons_append, List.append_assoc, targetBytes, valueBytes,
      sizeBytes]
  have htarget : targetBytes.length = 20 := Address.length_toBytes target
  have hvalue : valueBytes.length = 32 := Bytes.length_ofBits 32 value
  have hsizeBytes : sizeBytes.length = 32 := Bytes.length_ofNat 32 size
  have hdrop1 : packed.drop 1 = targetBytes ++ (valueBytes ++ (sizeBytes ++ rest)) := by
    rw [hpacked, List.drop_succ_cons, List.drop_zero]
  have hdrop21 : packed.drop 21 = valueBytes ++ (sizeBytes ++ rest) := by
    rw [← List.drop_drop (i := 20) (j := 1), hdrop1, List.drop_left' htarget]
  have hdrop53 : packed.drop 53 = sizeBytes ++ rest := by
    rw [← List.drop_drop (i := 32) (j := 21), hdrop21, List.drop_left' hvalue]
  have hdrop85 : packed.drop headerSize = rest :=
    List.drop_left' (length_header mode target value size)
  have hlong : ¬ packed.length < headerSize := by
    rw [List.length_append, length_header]
    omega
  have hmode : CallMode.ofByte (packed.headD 0) = .ok mode := by
    rw [hpacked, List.headD_cons, CallMode.ofByte_toByte]
  have hreadTarget : Address.ofBytes ((packed.drop 1).take 20) = target := by
    rw [hdrop1, List.take_left' htarget, Address.ofBytes_toBytes]
  have hreadValue : Bytes.toBits 256 ((packed.drop 21).take 32) = value := by
    rw [hdrop21, List.take_left' hvalue, Bytes.toBits_ofBits (by decide)]
  have hreadSize : Bytes.toNat ((packed.drop 53).take 32) = size := by
    have hfits : size < limit (8 * 32) := hsize
    rw [hdrop53, List.take_left' hsizeBytes, Bytes.toNat_ofNat hfits]
  show unpackOne packed = _
  rw [unpackOne, if_neg hlong, hmode]
  simp only [hreadTarget, hreadValue, hreadSize, hdrop85]

theorem unpackOne_packOne_append {c : Call} (hc : c.data.length < limit 64) (rest : Bytes) :
    unpackOne (packOne c ++ rest) = .ok (c, rest) := by
  have hfits : c.data.length < limit 256 := Nat.lt_of_lt_of_le hc (limit_le_limit (by decide))
  have hroom : ¬ (c.data ++ rest).length < c.data.length := by
    rw [List.length_append]
    omega
  rw [packOne_eq, List.append_assoc, unpackOne_header_append _ _ _ hfits,
    if_neg (Nat.not_le.mpr hc), if_neg hroom, List.take_left, List.drop_left]

/-! ### All calls -/

/-- Taking apart goes on behind the first call. -/
theorem unpack_of_unpackOne {packed rest : Bytes} {c : Call} (hne : packed ≠ [])
    (h : unpackOne packed = .ok (c, rest)) : unpack packed = (unpack rest).map (c :: ·) := by
  have hempty : ¬ packed.isEmpty = true := by
    rwa [List.isEmpty_iff]
  rw [unpack, if_neg hempty]
  split
  · next herror =>
    rw [h] at herror
    cases herror
  · next hok =>
    rw [h] at hok
    cases hok
    rfl

theorem unpack_nil : unpack [] = .ok [] := by
  rw [unpack]
  rfl

/-- Packed calls come off the front in their order, whatever follows them. -/
theorem unpack_pack_append {calls : List Call} (h : ∀ c ∈ calls, c.data.length < limit 64)
    (rest : Bytes) : unpack (pack calls ++ rest) = (unpack rest).map (calls ++ ·) := by
  induction calls with
  | nil =>
    show unpack rest = (unpack rest).map id
    cases unpack rest <;> rfl
  | cons c calls ih =>
    obtain ⟨hfirst, hrest⟩ := List.forall_mem_cons.mp h
    rw [pack_cons, List.append_assoc,
      unpack_of_unpackOne (packOne_ne_nil c _) (unpackOne_packOne_append hfirst _), ih hrest]
    cases unpack rest <;> rfl

/-- The data of packed calls are shorter than the packed calls. -/
theorem length_data_le_pack {calls : List Call} {c : Call} (h : c ∈ calls) :
    c.data.length ≤ (pack calls).length := by
  obtain ⟨before, after, rfl⟩ := List.append_of_mem h
  rw [pack, List.flatMap_append, List.flatMap_cons, List.length_append, List.length_append,
    length_packOne]
  omega

/-- Packed calls come apart in their order. -/
theorem unpack_pack {calls : List Call} (h : (pack calls).length < limit 64) :
    unpack (pack calls) = .ok calls := by
  have hdata : ∀ c ∈ calls, c.data.length < limit 64 :=
    fun c hc => Nat.lt_of_le_of_lt (length_data_le_pack hc) h
  have happend := unpack_pack_append hdata []
  rw [List.append_nil, unpack_nil] at happend
  rw [happend]
  exact congrArg Except.ok (List.append_nil calls)

/-- The packed calls are shorter than the call around them. -/
theorem length_pack_le (calls : List Call) : (pack calls).length ≤ (encode calls).length := by
  have hpad : (pack calls).length ≤ (Bytes.pad32 (pack calls)).length := by
    rw [Bytes.pad32, List.length_append]
    omega
  rw [encode, Abi.Function.encode, List.length_append, Abi.length_encode, Abi.tails, Abi.Ty.tail,
    List.length_append, List.length_append]
  omega

theorem decode_encode {calls : List Call} (h : (encode calls).length < limit 64) :
    decode (encode calls) = .ok calls := by
  have hread : Contract.multiSend.decode (encode calls) = .ok (pack calls, ()) := by
    have happend := Abi.Function.decode_encode (f := Contract.multiSend) (by decide)
      (pack calls, ()) [] h
    rwa [List.append_nil] at happend
  rw [decode, hread]
  exact unpack_pack (Nat.lt_of_le_of_lt (length_pack_le calls) h)

theorem selector_prefix_encode (calls : List Call) :
    Contract.multiSend.selector <+: encode calls :=
  List.prefix_append _ _

end SafeOps.Call.MultiSend
