import SafeOps.Proofs.Bytes
import SafeOps.TypedData.Word

/-!
# `SafeOps.Proofs.Crypto.Preimage`: what hashes are made from

A hash of an operation is a hash over bytes, some of which are hashes again. A `Preimage`
writes down how such a string is put together: `bytes` is the string itself, `hashed` lists
every string that is hashed on the way to it, and `leaves` are the bytes that are there as they
are.

There are more strings than hashes, so some two strings always have the same hash, and nobody
can be sure of more than this: whoever finds two operations with one hash has found two
different strings *among those that were hashed for them* with one hash (`Collision`).
`leaves_eq_or_collision` is that statement. It is an induction on how the strings are put
together, for two strings put together in the same way (`Aligned`): a hash is opened, or it is
the hash of two strings.
-/

set_option autoImplicit false

namespace SafeOps

/-- Two different strings, one of each kind, have the same hash. -/
def Collision (xs ys : List Bytes) : Prop :=
  ∃ x ∈ xs, ∃ y ∈ ys, x ≠ y ∧ keccak256 x = keccak256 y

theorem Collision.mono {xs xs' ys ys' : List Bytes} (h : Collision xs ys) (hxs : xs ⊆ xs')
    (hys : ys ⊆ ys') : Collision xs' ys' := by
  obtain ⟨x, hx, y, hy, hne, hhash⟩ := h
  exact ⟨x, hxs hx, y, hys hy, hne, hhash⟩

/-- Strings with the same hash are the same, or they collide. -/
theorem eq_or_collision {x y : Bytes} {xs ys : List Bytes} (hx : x ∈ xs) (hy : y ∈ ys)
    (hhash : keccak256 x = keccak256 y) : x = y ∨ Collision xs ys := by
  by_cases hxy : x = y
  · exact Or.inl hxy
  · exact Or.inr ⟨x, hx, y, hy, hxy, hhash⟩

/-! ### Hashes and words as bytes -/

theorem Hash.toBytes_injective {g h : Hash} (hbytes : g.toBytes = h.toBytes) : g = h := by
  have hbits : g.bits = h.bits := Bytes.ofBits_injective (Nat.le_refl 256) hbytes
  cases g
  cases h
  exact congrArg Hash.mk hbits

theorem Hash.ofBits_bits (h : Hash) : Bytes.ofBits 32 h.bits = h.toBytes := rfl

@[simp] theorem wordsBytes_nil : wordsBytes [] = [] := rfl

@[simp] theorem wordsBytes_cons (w : Word) (words : List Word) :
    wordsBytes (w :: words) = Bytes.ofBits 32 w ++ wordsBytes words :=
  List.flatMap_cons

@[simp] theorem wordsBytes_append (words words' : List Word) :
    wordsBytes (words ++ words') = wordsBytes words ++ wordsBytes words' :=
  List.flatMap_append

@[simp] theorem length_wordsBytes (words : List Word) :
    (wordsBytes words).length = 32 * words.length := by
  induction words with
  | nil => rfl
  | cons w words ih =>
    rw [wordsBytes_cons, List.length_append, ih, Bytes.length_ofBits, List.length_cons]
    omega

/-- The words can be told from their bytes, since each of them takes the same number. -/
theorem wordsBytes_injective {words words' : List Word}
    (h : wordsBytes words = wordsBytes words') : words = words' := by
  have hlength : words.length = words'.length := by
    have hbytes := congrArg List.length h
    rw [length_wordsBytes, length_wordsBytes] at hbytes
    omega
  induction words generalizing words' with
  | nil => exact (List.eq_nil_of_length_eq_zero hlength.symm).symm
  | cons w words ih =>
    cases words' with
    | nil => cases hlength
    | cons w' words' =>
      rw [wordsBytes_cons, wordsBytes_cons] at h
      obtain ⟨hfirst, hrest⟩ := List.append_inj h (by simp)
      have hw : w = w' := Bytes.ofBits_injective (Nat.le_refl 256) hfirst
      rw [hw, ih hrest (Nat.succ.inj hlength)]

/-! ### Preimages -/

/-- How a string of bytes is put together. -/
inductive Preimage where
  /-- Bytes as they are. -/
  | raw (bs : Bytes)
  /-- The hash of another string. -/
  | hash (p : Preimage)
  | append (p q : Preimage)

namespace Preimage

/-- The string. -/
def bytes : Preimage → Bytes
  | raw bs => bs
  | hash p => (keccak256 p.bytes).toBytes
  | append p q => p.bytes ++ q.bytes

/-- The strings that are hashed on the way. -/
def hashed : Preimage → List Bytes
  | raw _ => []
  | hash p => p.bytes :: p.hashed
  | append p q => p.hashed ++ q.hashed

/-- The bytes that are there as they are, in hashed strings too. -/
def leaves : Preimage → List Bytes
  | raw bs => [bs]
  | hash p => p.leaves
  | append p q => p.leaves ++ q.leaves

/-- Two strings are put together in the same way, with cuts at the same places. -/
inductive Aligned : Preimage → Preimage → Prop
  | raw (bs bs' : Bytes) : Aligned (raw bs) (raw bs')
  | hash {p p' : Preimage} (h : Aligned p p') : Aligned (hash p) (hash p')
  | append {p p' q q' : Preimage} (hlength : p.bytes.length = p'.bytes.length)
      (hp : Aligned p p') (hq : Aligned q q') : Aligned (append p q) (append p' q')

namespace Aligned

variable {p p' q q' : Preimage}

theorem appendRaw {bs bs' : Bytes} (hlength : bs.length = bs'.length) (hq : Aligned q q') :
    Aligned (.append (.raw bs) q) (.append (.raw bs') q') :=
  .append hlength (.raw bs bs') hq

/-- Hashes have one length, whatever was hashed. -/
theorem appendHash (hp : Aligned p p') (hq : Aligned q q') :
    Aligned (.append (.hash p) q) (.append (.hash p') q') :=
  .append (by simp [bytes]) (.hash hp) hq

end Aligned

/-- Strings that are put together in the same way and are equal have the same leaves, unless
two of the strings that were hashed for them collide. -/
theorem leaves_eq_or_collision {p p' : Preimage} (h : Aligned p p') (hbytes : p.bytes = p'.bytes) :
    p.leaves = p'.leaves ∨ Collision p.hashed p'.hashed := by
  induction h with
  | raw bs bs' => exact Or.inl (congrArg (fun bs => [bs]) hbytes)
  | @hash p p' _ ih =>
    have hhash : keccak256 p.bytes = keccak256 p'.bytes := Hash.toBytes_injective hbytes
    rcases eq_or_collision List.mem_cons_self List.mem_cons_self hhash with hopen | hcollision
    · -- The hash is opened: what was hashed is the same, so the induction goes on inside.
      refine (ih hopen).imp_right fun hcollision => ?_
      exact hcollision.mono (List.subset_cons_self _ _) (List.subset_cons_self _ _)
    · exact Or.inr hcollision
  | @append p p' q q' hlength _ _ ihp ihq =>
    obtain ⟨hleft, hright⟩ := List.append_inj hbytes hlength
    rcases ihp hleft with hp | hcollision
    · rcases ihq hright with hq | hcollision
      · left
        show p.leaves ++ q.leaves = p'.leaves ++ q'.leaves
        rw [hp, hq]
      · exact Or.inr (hcollision.mono (List.subset_append_right _ _)
          (List.subset_append_right _ _))
    · exact Or.inr (hcollision.mono (List.subset_append_left _ _) (List.subset_append_left _ _))

end Preimage

end SafeOps
