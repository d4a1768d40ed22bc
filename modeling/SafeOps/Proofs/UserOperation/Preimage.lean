import SafeOps.Proofs.Crypto.Preimage
import SafeOps.Proofs.UserOperation.Words

/-!
# `SafeOps.Proofs.UserOperation.Preimage`: what the hashes of an operation are made from

`ownerPreimage` is how the owners' hash is put together, down to the operation's own bytes, and
`entryPointPreimage` the same for the entry point's hash. They give the hashes that the library
computes (`bytes_ownerPreimage`, `bytes_entryPointPreimage`), so their `hashed` strings are the
strings that the library hashes.

What owners sign is put together alike for all operations (`aligned_ownerPreimage`). The entry
point's hash is so for operations of one generation only (`aligned_entryPointPreimage`): the
second one has fewer words.
-/

set_option autoImplicit false

namespace SafeOps.UserOperation

open Preimage (Aligned)

/-! ### What owners sign -/

/-- The record: its type, the words before the gas, the gas words and the words behind. -/
def recordPreimage (op : UserOperation) (c : SigningContext) : Preimage :=
  .append (.hash (.raw (Bytes.ofText (recordType op.generation)))) <|
  .append (.raw (wordsBytes [op.sender.toWord, op.nonce])) <|
  .append (.hash (.raw op.initCode)) <|
  .append (.hash (.raw op.callData)) <|
  .append (.raw (wordsBytes op.recordGasWords)) <|
  .append (.hash (.raw op.paymasterAndData)) <|
  .raw (wordsBytes
    [narrowWord 48 c.validAfter, narrowWord 48 c.validUntil, c.entryPoint.toWord])

def domainPreimage (c : SigningContext) : Preimage :=
  .raw (domainTypeHash.toBytes ++ wordsBytes [c.chainId.setWidth 256, c.module.toWord])

def ownerPreimage (op : UserOperation) (c : SigningContext) : Preimage :=
  .hash <| .append (.raw [0x19, 0x01]) <|
    .append (.hash (domainPreimage c)) (.hash (op.recordPreimage c))

theorem wordsBytes_recordWords (op : UserOperation) (c : SigningContext) :
    wordsBytes (op.recordWords c)
      = wordsBytes [op.sender.toWord, op.nonce] ++ ((keccak256 op.initCode).toBytes
        ++ ((keccak256 op.callData).toBytes ++ (wordsBytes op.recordGasWords
        ++ ((keccak256 op.paymasterAndData).toBytes ++ wordsBytes
          [narrowWord 48 c.validAfter, narrowWord 48 c.validUntil, c.entryPoint.toWord])))) := by
  simp only [recordWords, wordsBytes_append, wordsBytes_cons, wordsBytes_nil, Hash.ofBits_bits,
    List.append_assoc, List.append_nil]

theorem bytes_recordPreimage (op : UserOperation) (c : SigningContext) :
    (op.recordPreimage c).bytes
      = (keccak256 (Bytes.ofText (recordType op.generation))).toBytes
        ++ wordsBytes (op.recordWords c) := by
  rw [wordsBytes_recordWords]
  rfl

/-- What owners sign is the hash of its preimage. -/
theorem bytes_ownerPreimage (op : UserOperation) (c : SigningContext) :
    (op.ownerPreimage c).bytes = (op.ownerHash c).toBytes := by
  have hrecord : keccak256 (op.recordPreimage c).bytes = op.recordHash c :=
    congrArg keccak256 (op.bytes_recordPreimage c)
  have hdomain : keccak256 (domainPreimage c).bytes = domainHash c := by
    rw [domainPreimage, Preimage.bytes, domainHash]
  simp only [ownerPreimage, Preimage.bytes, hrecord, hdomain, ownerHash, signingHash,
    List.append_assoc]

@[simp] theorem length_recordGasWords (op : UserOperation) : op.recordGasWords.length = 5 := by
  unfold recordGasWords
  split <;> rfl

theorem aligned_recordPreimage (op op' : UserOperation) (c c' : SigningContext) :
    Aligned (op.recordPreimage c) (op'.recordPreimage c') :=
  .appendHash (.raw _ _) <| .appendRaw (by simp) <| .appendHash (.raw _ _) <|
    .appendHash (.raw _ _) <| .appendRaw (by simp) <| .appendHash (.raw _ _) <| .raw _ _

theorem aligned_ownerPreimage (op op' : UserOperation) (c c' : SigningContext) :
    Aligned (op.ownerPreimage c) (op'.ownerPreimage c') :=
  .hash <| .appendRaw rfl <| .appendHash (.raw _ _) <| .hash (aligned_recordPreimage op op' c c')

/-! ### The entry point's hash -/

/-- Every field but the signature. -/
def innerPreimage (op : UserOperation) : Preimage :=
  .append (.raw (wordsBytes [op.sender.toWord, op.nonce])) <|
  .append (.hash (.raw op.initCode)) <|
  .append (.hash (.raw op.callData)) <|
  .append (.raw (wordsBytes op.entryPointGasWords)) <|
  .hash (.raw op.paymasterAndData)

def entryPointPreimage (op : UserOperation) (entryPoint : Address) (chainId : BitVec 64) :
    Preimage :=
  .hash <| .append (.hash op.innerPreimage)
    (.raw (wordsBytes [entryPoint.toWord, chainId.setWidth 256]))

theorem bytes_innerPreimage (op : UserOperation) :
    op.innerPreimage.bytes = wordsBytes op.entryPointWords := by
  cases hg : op.generation <;>
    simp only [innerPreimage, Preimage.bytes, entryPointWords, entryPointGasWords, hg,
      Hash.ofBits_bits, wordsBytes_append, wordsBytes_cons, wordsBytes_nil, List.append_assoc,
      List.append_nil]

/-- The entry point's hash is the hash of its preimage. -/
theorem bytes_entryPointPreimage (op : UserOperation) (entryPoint : Address)
    (chainId : BitVec 64) :
    (op.entryPointPreimage entryPoint chainId).bytes
      = (op.entryPointHash entryPoint chainId).toBytes := by
  simp only [entryPointPreimage, Preimage.bytes, bytes_innerPreimage, entryPointHash,
    wordsBytes_cons, Hash.ofBits_bits]

theorem aligned_entryPointPreimage {op op' : UserOperation}
    (hgeneration : op.generation = op'.generation) (entryPoint entryPoint' : Address)
    (chainId chainId' : BitVec 64) :
    Aligned (op.entryPointPreimage entryPoint chainId)
      (op'.entryPointPreimage entryPoint' chainId') := by
  have hgas : op.entryPointGasWords.length = op'.entryPointGasWords.length := by
    cases hg : op.generation <;> simp [entryPointGasWords, ← hgeneration, hg]
  have hinner : Aligned op.innerPreimage op'.innerPreimage :=
    .appendRaw (by simp) <| .appendHash (.raw _ _) <| .appendHash (.raw _ _) <|
      .appendRaw (by simp [hgas]) <| .hash (.raw _ _)
  exact .hash <| .appendHash hinner <| .raw _ _

end SafeOps.UserOperation
