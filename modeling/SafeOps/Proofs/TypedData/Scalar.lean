import SafeOps.Proofs.Json.Codec
import SafeOps.Proofs.TypedData.Flat

/-!
# `SafeOps.Proofs.TypedData.Scalar`: entries of addresses, bytes and numbers

The entries that messages of this library are made of, each with its JSON as the codecs write
it and its word as contracts hash it. They are sound: a reader of the JSON finds the word. For
a number this needs that it has no more bits than its type says.
-/

set_option autoImplicit false

namespace SafeOps.TypedData

/-! ### Names -/

theorem names_address : Names "address" (some .address) :=
  ⟨rfl, rfl, rfl, rfl, rfl⟩

theorem names_bytes : Names "bytes" (some .bytes) :=
  ⟨rfl, rfl, rfl, rfl, rfl⟩

/-- The sizes of numbers that occur. -/
inductive Size : Nat → Prop
  | time : Size 48
  | gas : Size 128
  | word : Size 256

theorem Size.le {bits : Nat} (h : Size bits) : bits ≤ 256 := by
  cases h <;> decide

theorem names_uint {bits : Nat} (h : Size bits) :
    Names ("uint" ++ toString bits) (some (.uint bits)) := by
  cases h with
  | time => exact ⟨rfl, rfl, rfl, rfl, rfl⟩
  | gas => exact ⟨rfl, rfl, rfl, rfl, rfl⟩
  | word => exact ⟨rfl, rfl, rfl, rfl, rfl⟩

/-! ### Entries -/

/-- A value of a scalar type has the word of the scalar. -/
theorem word_of_scalarWord? {kind : ValueType} {j : Json} {w : Word}
    (h : scalarWord? kind j = some w) : word kind j = .ok w := by
  cases kind with
  | array item => simp [scalarWord?] at h
  | fixedArray item length => simp [scalarWord?] at h
  | record written members => simp [scalarWord?] at h
  | _ => simp only [word, h]

namespace Entry

def address (name : String) (a : Address) : Entry :=
  ⟨"address", name, .address, Json.ofAddress a, a.toWord⟩

def bytes (name : String) (bs : Bytes) : Entry :=
  ⟨"bytes", name, .bytes, Json.ofBytes bs, (keccak256 bs).bits⟩

def uint {width : Nat} (bits : Nat) (name : String) (x : BitVec width) : Entry :=
  ⟨"uint" ++ toString bits, name, .uint bits, Json.ofQuantity x, x.setWidth 256⟩

theorem Sound.address (name : String) (a : Address) : (Entry.address name a).Sound := by
  refine ⟨names_address, ?_⟩
  have hscalar : scalarWord? .address (Json.ofAddress a) = some a.toWord := by
    show ((Hex.read (some 20) a.text).toOption).map (fun bs => (Address.ofBytes bs).toWord) = _
    rw [Json.read_addressText]
    exact congrArg (fun b : Address => some b.toWord) a.ofBytes_toBytes
  exact word_of_scalarWord? hscalar

theorem Sound.bytes (name : String) (bs : Bytes) : (Entry.bytes name bs).Sound := by
  refine ⟨names_bytes, ?_⟩
  have hscalar : scalarWord? .bytes (Json.ofBytes bs) = some (keccak256 bs).bits := by
    rw [scalarWord?, Json.toBytes_ofBytes]
    rfl
  exact word_of_scalarWord? hscalar

/-- A number that fits its size has a word. -/
theorem Sound.uint {width bits : Nat} (name : String) {x : BitVec width} (hsize : Size bits)
    (hfits : x.toNat < limit bits) : (Entry.uint bits name x).Sound := by
  refine ⟨names_uint hsize, ?_⟩
  have hword : x.toNat < limit 256 :=
    Nat.lt_of_lt_of_le hfits (limit_le_limit hsize.le)
  -- A reader takes the number for a word first, and then compares it with its size.
  have hvalue : (x.setWidth 256).toNat < limit bits := by
    rw [BitVec.toNat_setWidth]
    exact Nat.lt_of_le_of_lt (Nat.mod_le _ _) hfits
  have hscalar : scalarWord? (.uint bits) (Json.ofQuantity x) = some (x.setWidth 256) := by
    rw [scalarWord?, uintWord?, Json.toQuantity_ofQuantity hword]
    exact Option.filter_some_pos (decide_eq_true hvalue)
  exact word_of_scalarWord? hscalar

end Entry

end SafeOps.TypedData
