import SafeOps.Proofs.SafeOperation.Invariant
import SafeOps.Proofs.UserOperation.Preimage

/-!
# `SafeOps.Proofs.SafeOperation.Binding`: what a hash binds

A signature is given for a hash, and a bundler knows an operation by one. Both are worth only
as much as the hash says about the operation. `SignedFields` are the fields that the owners'
hash is to fix, `SubmittedFields` those of the entry point's hash. The former decide on both
hashes (`hash_eq_of_signedFields`, `entryPointHash_eq_of_signedFields`).

Two operations with one hash agree in these fields, or two different strings that were hashed
for them have the same hash. Apart from hashes, this takes what every operation has been checked
for: quantities are cut where they are hashed, and the shape of an operation is not hashed at
all, but follows from its entry point. Hence the main statement, `fields_eq_or_collision_run`,
is about operations that were made and changed, of any two generations.
-/

set_option autoImplicit false

namespace SafeOps.SafeOperation

/-- What owners sign. -/
structure SignedFields where
  generation : EntryPoint
  chainId : BitVec 64
  module : Address
  entryPoint : Address
  sender : Address
  nonce : Word
  initCode : Bytes
  callData : Bytes
  gas : Gas
  paymasterAndData : Bytes
  validAfter : BitVec 64
  validUntil : BitVec 64
  deriving DecidableEq, Repr

/-- What the entry point hashes. -/
structure SubmittedFields where
  generation : EntryPoint
  chainId : BitVec 64
  entryPoint : Address
  sender : Address
  nonce : Word
  initCode : Bytes
  callData : Bytes
  gas : Gas
  paymasterAndData : Bytes
  deriving DecidableEq, Repr

def signedFields (s : SafeOperation) : SignedFields where
  generation := s.operation.generation
  chainId := s.context.chainId
  module := s.context.module
  entryPoint := s.context.entryPoint
  sender := s.operation.sender
  nonce := s.operation.nonce
  initCode := s.operation.initCode
  callData := s.operation.callData
  gas := s.operation.gas
  paymasterAndData := s.operation.paymasterAndData
  validAfter := s.context.validAfter
  validUntil := s.context.validUntil

def submittedFields (s : SafeOperation) : SubmittedFields where
  generation := s.operation.generation
  chainId := s.context.chainId
  entryPoint := s.context.entryPoint
  sender := s.operation.sender
  nonce := s.operation.nonce
  initCode := s.operation.initCode
  callData := s.operation.callData
  gas := s.operation.gas
  paymasterAndData := s.operation.paymasterAndData

/-- How the hash that owners sign is put together. -/
def hashPreimage (s : SafeOperation) : Preimage :=
  s.operation.ownerPreimage s.context

/-- How the entry point's hash is put together. -/
def entryPointHashPreimage (s : SafeOperation) : Preimage :=
  s.operation.entryPointPreimage s.context.entryPoint s.context.chainId

theorem bytes_hashPreimage (s : SafeOperation) : s.hashPreimage.bytes = s.hash.toBytes :=
  s.operation.bytes_ownerPreimage s.context

theorem bytes_entryPointHashPreimage (s : SafeOperation) :
    s.entryPointHashPreimage.bytes = s.entryPointHash.toBytes :=
  s.operation.bytes_entryPointPreimage s.context.entryPoint s.context.chainId

variable {s t : SafeOperation}

/-- Operations of one entry point have one shape. -/
theorem generation_eq (hs : s.WellFormed) (ht : t.WellFormed)
    (h : s.context.entryPoint = t.context.entryPoint) :
    s.operation.generation = t.operation.generation := by
  have hboth := hs.generation
  rw [h, ht.generation] at hboth
  exact (Except.ok.inj hboth).symm

/-! ### Fields decide on the hashes -/

/-- Operations that agree in what owners sign have one hash for owners. -/
theorem hash_eq_of_signedFields (h : s.signedFields = t.signedFields) : s.hash = t.hash := by
  simp only [signedFields, SignedFields.mk.injEq] at h
  obtain ⟨hgeneration, hchainId, hmodule, hentryPoint, hsender, hnonce, hinitCode, hcallData, hgas,
    hpaymaster, hafter, huntil⟩ := h
  simp only [hash, UserOperation.ownerHash, UserOperation.domainHash, UserOperation.recordHash,
    UserOperation.recordWords, UserOperation.recordGasWords, hgeneration, hchainId, hmodule,
    hentryPoint, hsender, hnonce, hinitCode, hcallData, hgas, hpaymaster, hafter, huntil]

/-- They also have one hash for the entry point, which hashes less. -/
theorem entryPointHash_eq_of_signedFields (h : s.signedFields = t.signedFields) :
    s.entryPointHash = t.entryPointHash := by
  simp only [signedFields, SignedFields.mk.injEq] at h
  obtain ⟨hgeneration, hchainId, -, hentryPoint, hsender, hnonce, hinitCode, hcallData, hgas,
    hpaymaster, -, -⟩ := h
  simp only [entryPointHash, UserOperation.entryPointHash, UserOperation.entryPointWords,
    hgeneration, hchainId, hentryPoint, hsender, hnonce, hinitCode, hcallData, hgas, hpaymaster]

/-! ### What owners sign -/

/-- The fields can be told from the leaves of what owners sign. -/
theorem signedFields_of_leaves (hs : s.WellFormed) (ht : t.WellFormed)
    (h : s.hashPreimage.leaves = t.hashPreimage.leaves) : s.signedFields = t.signedFields := by
  simp only [hashPreimage, UserOperation.ownerPreimage, UserOperation.domainPreimage,
    UserOperation.recordPreimage, Preimage.leaves, List.cons_append, List.nil_append,
    List.cons.injEq, true_and, and_true] at h
  obtain ⟨hdomain, -, hfront, hinitCode, hcallData, hgas, hpaymaster, hback⟩ := h
  have hdomainWords := wordsBytes_injective (List.append_cancel_left hdomain)
  have hfrontWords := wordsBytes_injective hfront
  have hgasWords := wordsBytes_injective hgas
  have hbackWords := wordsBytes_injective hback
  simp only [List.cons.injEq, and_true] at hdomainWords hfrontWords hbackWords
  obtain ⟨hchain, hmodule⟩ := hdomainWords
  obtain ⟨hsender, hnonce⟩ := hfrontWords
  obtain ⟨hafter, huntil, hentry⟩ := hbackWords
  have hentryPoint := Address.toWord_injective hentry
  have hgeneration := generation_eq hs ht hentryPoint
  have hwidth : 64 ≤ 256 := by omega
  simp only [signedFields, SignedFields.mk.injEq]
  exact ⟨hgeneration, setWidth_injective hwidth hchain, Address.toWord_injective hmodule,
    hentryPoint, Address.toWord_injective hsender, hnonce, hinitCode, hcallData,
    UserOperation.gas_of_recordGasWords hgeneration hs.fits ht.fits hgasWords, hpaymaster,
    UserOperation.narrowWord_injective hwidth hs.sound.validAfter_lt ht.sound.validAfter_lt hafter,
    UserOperation.narrowWord_injective hwidth hs.sound.validUntil_lt ht.sound.validUntil_lt huntil⟩

theorem signedFields_eq_or_collision (hs : s.WellFormed) (ht : t.WellFormed)
    (h : s.hash = t.hash) :
    s.signedFields = t.signedFields ∨ Collision s.hashPreimage.hashed t.hashPreimage.hashed := by
  have hbytes : s.hashPreimage.bytes = t.hashPreimage.bytes := by
    rw [bytes_hashPreimage, bytes_hashPreimage, h]
  have haligned := UserOperation.aligned_ownerPreimage s.operation t.operation s.context t.context
  exact (Preimage.leaves_eq_or_collision haligned hbytes).imp_left (signedFields_of_leaves hs ht)

/-! ### The entry point's hash -/

/-- The entry point stands in the outer one of the two strings, behind the hash of the other. -/
theorem entryPoint_eq_or_collision (h : s.entryPointHash = t.entryPointHash) :
    s.context.entryPoint = t.context.entryPoint
      ∨ Collision s.entryPointHashPreimage.hashed t.entryPointHashPreimage.hashed := by
  have hbytes : s.entryPointHashPreimage.bytes = t.entryPointHashPreimage.bytes := by
    rw [bytes_entryPointHashPreimage, bytes_entryPointHashPreimage, h]
  have hhash := Hash.toBytes_injective hbytes
  rcases eq_or_collision List.mem_cons_self List.mem_cons_self hhash with hopen | hcollision
  · left
    obtain ⟨-, hwords⟩ := List.append_inj hopen (by simp [Preimage.bytes])
    have hwords := wordsBytes_injective hwords
    simp only [List.cons.injEq, and_true] at hwords
    exact Address.toWord_injective hwords.1
  · exact Or.inr hcollision

/-- The fields can be told from the leaves of what the entry point hashes. -/
theorem submittedFields_of_leaves (hs : s.WellFormed) (ht : t.WellFormed)
    (hgeneration : s.operation.generation = t.operation.generation)
    (h : s.entryPointHashPreimage.leaves = t.entryPointHashPreimage.leaves) :
    s.submittedFields = t.submittedFields := by
  simp only [entryPointHashPreimage, UserOperation.entryPointPreimage,
    UserOperation.innerPreimage, Preimage.leaves, List.cons_append, List.nil_append,
    List.cons.injEq, and_true] at h
  obtain ⟨hfront, hinitCode, hcallData, hgas, hpaymaster, hback⟩ := h
  have hfrontWords := wordsBytes_injective hfront
  have hgasWords := wordsBytes_injective hgas
  have hbackWords := wordsBytes_injective hback
  simp only [List.cons.injEq, and_true] at hfrontWords hbackWords
  obtain ⟨hsender, hnonce⟩ := hfrontWords
  obtain ⟨hentry, hchain⟩ := hbackWords
  have hwidth : 64 ≤ 256 := by omega
  simp only [submittedFields, SubmittedFields.mk.injEq]
  exact ⟨hgeneration, setWidth_injective hwidth hchain, Address.toWord_injective hentry,
    Address.toWord_injective hsender, hnonce, hinitCode, hcallData,
    UserOperation.gas_of_entryPointGasWords hgeneration hs.fits ht.fits hgasWords, hpaymaster⟩

theorem submittedFields_eq_or_collision (hs : s.WellFormed) (ht : t.WellFormed)
    (h : s.entryPointHash = t.entryPointHash) :
    s.submittedFields = t.submittedFields
      ∨ Collision s.entryPointHashPreimage.hashed t.entryPointHashPreimage.hashed := by
  rcases entryPoint_eq_or_collision h with hentryPoint | hcollision
  · -- Only now do both operations have the same number of words inside.
    have hgeneration := generation_eq hs ht hentryPoint
    have haligned := UserOperation.aligned_entryPointPreimage hgeneration s.context.entryPoint
      t.context.entryPoint s.context.chainId t.context.chainId
    have hbytes : s.entryPointHashPreimage.bytes = t.entryPointHashPreimage.bytes := by
      rw [bytes_entryPointHashPreimage, bytes_entryPointHashPreimage, h]
    exact (Preimage.leaves_eq_or_collision haligned hbytes).imp_left
      (submittedFields_of_leaves hs ht hgeneration)
  · exact Or.inr hcollision

/-! ### All operations -/

/-- However two operations were made and changed: if owners sign one hash for both then they
agree in everything that owners sign, and if the entry point gives them one hash then they agree
in all it hashes; or else two different strings that were hashed for them have one hash. -/
theorem fields_eq_or_collision_run {o o' : Origin} {s₀ t₀ : SafeOperation}
    (hs : o.make = .ok s₀) (ht : o'.make = .ok t₀) (changes changes' : List Change) :
    ((s₀.run changes).hash = (t₀.run changes').hash →
      (s₀.run changes).signedFields = (t₀.run changes').signedFields
        ∨ Collision (s₀.run changes).hashPreimage.hashed (t₀.run changes').hashPreimage.hashed)
    ∧ ((s₀.run changes).entryPointHash = (t₀.run changes').entryPointHash →
      (s₀.run changes).submittedFields = (t₀.run changes').submittedFields
        ∨ Collision (s₀.run changes).entryPointHashPreimage.hashed
            (t₀.run changes').entryPointHashPreimage.hashed) := by
  have hwell := wellFormed_run hs changes
  have hwell' := wellFormed_run ht changes'
  exact ⟨signedFields_eq_or_collision hwell hwell', submittedFields_eq_or_collision hwell hwell'⟩

/-- A draft that was signed, and the operation that a bundler would be given for it. -/
theorem fields_eq_or_collision_run_sample :
    ∃ (d : Draft) (c : SigningContext) (s₀ t₀ : SafeOperation),
      (Origin.draft d c).make = .ok s₀
      ∧ (Origin.wire ((UserOperation.shaped .v07 d).withSignature [0x01]) c).make = .ok t₀
      ∧ (s₀.run [.sign (.ofContract ⟨3⟩ [0x02])]).hash = (t₀.run [.estimate {}]).hash
      ∧ ((s₀.run [.sign (.ofContract ⟨3⟩ [0x02])]).signedFields
            = (t₀.run [.estimate {}]).signedFields
          ∨ Collision (s₀.run [.sign (.ofContract ⟨3⟩ [0x02])]).hashPreimage.hashed
              (t₀.run [.estimate {}]).hashPreimage.hashed) := by
  let d : Draft := ⟨⟨1⟩, 3, [0x7b, 0xb3], some (⟨4⟩, [0x05]), .placeholder⟩
  let c : SigningContext := ⟨1, ⟨9⟩, EntryPoint.v07.address, 5, 8⟩
  have hdraft : (Origin.draft d c).make = .ok ⟨UserOperation.shaped .v07 d, c, .empty⟩ := rfl
  have hwire : (Origin.wire ((UserOperation.shaped .v07 d).withSignature [0x01]) c).make
      = .ok ⟨UserOperation.shaped .v07 d, c, .empty⟩ := rfl
  refine ⟨d, c, _, _, hdraft, hwire, rfl, ?_⟩
  exact (fields_eq_or_collision_run hdraft hwire _ _).1 rfl

end SafeOps.SafeOperation
