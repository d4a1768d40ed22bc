import SafeOps.Json.Codec
import SafeOps.Proofs.Hex
import SafeOps.Proofs.Quantity

/-!
# `SafeOps.Proofs.Json.Codec`: chain values survive being written as JSON

Each writer of `SafeOps.Json.Codec` is undone by the reader of the same kind of value. A
quantity may be read at another width than it was written at, as long as it holds the number.

Where a value may be left out, `null` stands for no value and nothing else does
(`toOptionOf_eq_none_iff`).
-/

set_option autoImplicit false

namespace SafeOps.Json

/-- A quantity is read back at any width that holds it. -/
theorem toQuantity_ofQuantity {width width' : Nat} {x : BitVec width'}
    (h : x.toNat < limit width) :
    toQuantity width (ofQuantity x) = some (x.setWidth width) := by
  show (Quantity.read width (Quantity.hex x)).toOption = _
  rw [Quantity.read_hex h, BitVec.ofNat_toNat]
  rfl

@[simp] theorem toBytes_ofBytes (bs : Bytes) : toBytes (ofBytes bs) = some bs := by
  show (Hex.read none (Hex.render bs)).toOption = some bs
  rw [Hex.read_render fun n hn => absurd hn (by simp)]
  rfl

/-- An address is written as its 20 bytes. -/
theorem read_addressText (a : Address) : Hex.read (some 20) a.text = .ok a.toBytes := by
  refine Hex.read_render fun n hn => ?_
  rw [← Option.some_inj.mp hn]
  exact a.length_toBytes

@[simp] theorem toAddress_ofAddress (a : Address) : toAddress (ofAddress a) = some a := by
  show ((Hex.read (some 20) a.text).toOption).map Address.ofBytes = some a
  rw [read_addressText]
  exact congrArg some a.ofBytes_toBytes

/-! ### Values that may be left out -/

section

variable {α : Type} {value : Json → Option α} {j : Json}

theorem toOptionOf_eq_none_iff : toOptionOf value j = some none ↔ j = .null := by
  cases j with
  | null => exact ⟨fun _ => rfl, fun _ => rfl⟩
  | _ => simp [toOptionOf]

theorem toOptionOf_eq_some_iff {a : α} (hnull : value .null = none) :
    toOptionOf value j = some (some a) ↔ value j = some a := by
  cases j with
  | null => simp [toOptionOf, hnull]
  | _ => simp [toOptionOf]

end

end SafeOps.Json
