import SafeOps.Call

/-!
# `SafeOps.Call.MultiSend`: several calls in one byte string

A packed call is its mode (1 byte), its target (20), its value (32), the size of its
data (32) and the data themselves, without padding. `pack` puts packed calls one after
another and `unpack` takes them apart. `encode` and `decode` do the same inside a call
of the contract that performs them.
-/

set_option autoImplicit false

namespace SafeOps.Call.MultiSend

/-- The size of what stands before the data of a packed call. -/
def headerSize : Nat := 85

/-- One packed call. -/
def packOne (c : Call) : Bytes :=
  c.mode.toByte :: c.target.toBytes ++ Bytes.ofBits 32 c.value
    ++ Bytes.ofNat 32 c.data.length ++ c.data

/-- Packed calls, one after another. -/
def pack (calls : List Call) : Bytes :=
  calls.flatMap packOne

/-- The first packed call, with the bytes after it. -/
def unpackOne (packed : Bytes) : Except CallError (Call × Bytes) :=
  if packed.length < headerSize then .error (.malformed (.truncatedHeader packed.length))
  else
    match CallMode.ofByte (packed.headD 0) with
    | .error e => .error e
    | .ok mode =>
      let target := Address.ofBytes ((packed.drop 1).take 20)
      let value : Word := Bytes.toBits 256 ((packed.drop 21).take 32)
      let size := Bytes.toNat ((packed.drop 53).take 32)
      let rest := packed.drop headerSize
      if limit 64 ≤ size then .error (.malformed .sizeTooLarge)
      else if rest.length < size then .error (.malformed (.missingData size rest.length))
      else .ok (⟨target, value, rest.take size, mode⟩, rest.drop size)

/-- Reading a packed call uses up some bytes. -/
theorem length_lt_of_unpackOne {packed rest : Bytes} {c : Call}
    (h : unpackOne packed = .ok (c, rest)) : rest.length < packed.length := by
  unfold unpackOne headerSize at h
  split at h
  · cases h
  · split at h
    · cases h
    · dsimp only at h
      split at h
      · cases h
      · split at h
        · cases h
        · simp only [Except.ok.injEq, Prod.mk.injEq] at h
          rw [← h.2]
          simp only [List.length_drop]
          omega

/-- Takes packed calls apart. -/
def unpack (packed : Bytes) : Except CallError (List Call) :=
  if packed.isEmpty then .ok []
  else
    match h : unpackOne packed with
    | .error e => .error e
    | .ok (c, rest) =>
      have := length_lt_of_unpackOne h
      (unpack rest).map (c :: ·)
termination_by packed.length

/-- The call that performs several calls. -/
def encode (calls : List Call) : Bytes :=
  Contract.multiSend.encode (pack calls, ())

/-- The calls performed by a call. -/
def decode (data : Bytes) : Except CallError (List Call) :=
  match Contract.multiSend.decode data with
  | .ok (packed, _) => unpack packed
  | .error fault => .error (.malformed (.abi fault))

end SafeOps.Call.MultiSend
