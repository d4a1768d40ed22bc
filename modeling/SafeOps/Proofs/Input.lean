import SafeOps.Input
import SafeOps.Proofs.Failable
import SafeOps.Proofs.Hex
import SafeOps.Proofs.Quantity
import SafeOps.Proofs.Text.Blank

/-!
# `SafeOps.Proofs.Input`: a caller's texts are read as the values they show

A caller is free in how to write a value: any blanks may stand around it, letters may be of
either case, and a quantity may be in hexadecimal or in decimal. `ShowsBytes`, `ShowsAddress` and
`ShowsQuantity` are this freedom, and each reader gives the value back whatever use was made of
it.
-/

set_option autoImplicit false

namespace SafeOps.Input

/-! ### Bytes -/

/-- A text shows a byte string, with blanks around it or none. -/
def ShowsBytes (bs : Bytes) (text : String) : Prop :=
  ∃ core, Hex.Spells bs core ∧ Text.Padded core text

/-- A text shows an address, with blanks around it or none. -/
def ShowsAddress (a : Address) (text : String) : Prop :=
  ShowsBytes a.toBytes text

theorem showsBytes_render (bs : Bytes) : ShowsBytes bs (Hex.render bs) :=
  ⟨Hex.render bs, Hex.spells_render bs, Text.padded_refl _⟩

theorem showsAddress_render (a : Address) : ShowsAddress a (Hex.render a.toBytes) :=
  showsBytes_render a.toBytes

theorem hexBytes_of_shows {bs : Bytes} {text : String} {length? : Option Nat} (field : String)
    (h : ShowsBytes bs text) (hlength? : ∀ n ∈ length?, bs.length = n) :
    hexBytes length? field text = .ok bs := by
  obtain ⟨core, hspells, hpadded⟩ := h
  rw [hexBytes, Text.trim_of_padded hpadded (Hex.isBlank_of_spells hspells), mapError_eq_ok_iff]
  exact Hex.read_of_spells hspells hlength?

theorem bytes_of_shows {bs : Bytes} {text : String} (field : String) (h : ShowsBytes bs text) :
    bytes field text = .ok bs :=
  hexBytes_of_shows field h fun _ hn => nomatch hn

theorem address_of_shows {a : Address} {text : String} (field : String)
    (h : ShowsAddress a text) : address field text = .ok a := by
  have hlength : ∀ n ∈ some 20, a.toBytes.length = n := by
    rintro n ⟨⟩
    exact a.length_toBytes
  rw [address, hexBytes_of_shows field h hlength]
  exact congrArg Except.ok a.ofBytes_toBytes

/-! ### Quantities -/

section

variable {width : Nat} {x : BitVec width} {text : String}

/-- A text shows a quantity, with blanks around it or none. -/
def ShowsQuantity (x : BitVec width) (text : String) : Prop :=
  ∃ core, Quantity.Spells x.toNat core ∧ Text.Padded core text

theorem showsQuantity_hex (x : BitVec width) : ShowsQuantity x (Quantity.hex x) :=
  ⟨Quantity.hex x, Quantity.spells_hex x, Text.padded_refl _⟩

theorem showsQuantity_decimal (x : BitVec width) : ShowsQuantity x (Quantity.decimal x) :=
  ⟨Quantity.decimal x, Quantity.spells_decimal x, Text.padded_refl _⟩

theorem quantity_of_shows (field : String) (h : ShowsQuantity x text) :
    quantity width field text = .ok x := by
  obtain ⟨core, hspells, hpadded⟩ := h
  rw [quantity, Text.trim_of_padded hpadded (Quantity.isBlank_of_spells hspells),
    mapError_eq_ok_iff, Quantity.read_of_spells hspells x.isLt, BitVec.ofNat_toNat,
    BitVec.setWidth_eq]

/-- A caller's quantity in decimal is taken as it is. -/
theorem quantity_decimal (field : String) (x : BitVec width) :
    quantity width field (Quantity.decimal x) = .ok x :=
  quantity_of_shows field (showsQuantity_decimal x)

end

end SafeOps.Input
