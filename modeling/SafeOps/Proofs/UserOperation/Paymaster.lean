import SafeOps.Proofs.Bytes
import SafeOps.Proofs.UserOperation.Fits
import SafeOps.Proofs.UserOperation.Words

/-!
# `SafeOps.Proofs.UserOperation.Paymaster`: who pays, in packed form and in fields

The packed form of a paymaster is an address, two gas limits with 16 bytes each, and data. Taken
apart and packed again it is what it was (`pack_unpack`), since the limits that are read from 16
bytes fit 128 bits (`unpack_fits`). Anything that is too short for an address and two limits is no
paymaster.

`Splits` says the same without a place to cut at: a packed form splits into the fields that it is
made of (`splits_iff`). The other way round a field may be missing. Packed and taken apart again it
is there, with nothing in it (`unpack_pack`).
-/

set_option autoImplicit false

namespace SafeOps

namespace Paymaster

/-- A gas limit that is read from 16 bytes is the number they spell. -/
theorem toNat_toBits {bs : Bytes} (h : bs.length = 16) :
    (Bytes.toBits 256 bs).toNat = Bytes.toNat bs ∧ (Bytes.toBits 256 bs).toNat < limit 128 := by
  have hlt : Bytes.toNat bs < limit (8 * 16) := h ▸ Bytes.toNat_lt bs
  have hwide : Bytes.toNat bs < limit 256 := Nat.lt_of_lt_of_le hlt (limit_le_limit (by decide))
  have heq : (Bytes.toBits 256 bs).toNat = Bytes.toNat bs := by
    rw [Bytes.toBits, BitVec.toNat_ofNat]
    exact Nat.mod_eq_of_lt hwide
  exact ⟨heq, heq ▸ hlt⟩

/-- A gas limit that is read from 16 bytes is written as these bytes. -/
theorem ofBits_clamp_toBits {bs : Bytes} (h : bs.length = 16) :
    Bytes.ofBits 16 (clamp 128 (Bytes.toBits 256 bs)) = bs := by
  obtain ⟨heq, hlt⟩ := toNat_toBits h
  refine Bytes.ofBits_of_toNat_eq h ?_
  rw [clamp_of_lt hlt, BitVec.toNat_setWidth, ← heq]
  exact Nat.mod_eq_of_lt hlt

theorem unpack_of_lt {packed : Bytes} (h : packed.length < headerSize) : unpack packed = {} :=
  if_pos h

/-- The packed form is taken apart without loss. -/
theorem pack_unpack {packed : Bytes} (h : headerSize ≤ packed.length) :
    (unpack packed).pack = packed := by
  have hlong : 52 ≤ packed.length := h
  have hverification : ((packed.drop 20).take 16).length = 16 := by
    rw [List.length_take, List.length_drop]
    omega
  have hpostOp : ((packed.drop 36).take 16).length = 16 := by
    rw [List.length_take, List.length_drop]
    omega
  rw [unpack, if_neg (Nat.not_lt.mpr h)]
  show (Address.ofBytes (packed.take 20)).toBytes
    ++ Bytes.ofBits 16 (clamp 128 (Bytes.toBits 256 ((packed.drop 20).take 16)))
    ++ Bytes.ofBits 16 (clamp 128 (Bytes.toBits 256 ((packed.drop 36).take 16)))
    ++ packed.drop 52 = packed
  -- The pieces follow each other, so they are joined from the back.
  have hback : (packed.drop 36).take 16 ++ packed.drop 52 = packed.drop 36 :=
    Bytes.slice_append_drop packed 36 16
  have hmiddle : (packed.drop 20).take 16 ++ packed.drop 36 = packed.drop 20 :=
    Bytes.slice_append_drop packed 20 16
  rw [ofBits_clamp_toBits hverification, ofBits_clamp_toBits hpostOp, List.append_assoc,
    List.append_assoc, hback, hmiddle]
  exact Address.toBytes_take_append_drop (by omega)

/-- The limits that are taken out of a packed form fit. -/
theorem unpack_fits (packed : Bytes) :
    (∀ gas ∈ (unpack packed).verificationGas, gas.toNat < limit 128)
      ∧ ∀ gas ∈ (unpack packed).postOpGas, gas.toNat < limit 128 := by
  by_cases h : packed.length < headerSize
  · rw [unpack_of_lt h]
    exact ⟨nofun, nofun⟩
  · have hlong : ¬ packed.length < 52 := h
    have hread : ∀ start, start + 16 ≤ 52 →
        (Bytes.toBits 256 ((packed.drop start).take 16)).toNat < limit 128 := by
      intro start hstart
      refine (toNat_toBits ?_).2
      rw [List.length_take, List.length_drop]
      omega
    rw [unpack, if_neg h]
    refine ⟨fun gas hgas => ?_, fun gas hgas => ?_⟩
    · obtain rfl := Option.some.inj hgas
      exact hread 20 (by decide)
    · obtain rfl := Option.some.inj hgas
      exact hread 36 (by decide)

/-! ### Fields of a packed form -/

/-- The fields that a packed form is made of: an address, two limits of 128 bits, and data. -/
def Splits (packed : Bytes) (p : Paymaster) : Prop :=
  ∃ address verificationGas postOpGas data,
    p = ⟨some address, some verificationGas, some postOpGas, some data⟩
      ∧ verificationGas.toNat < limit 128 ∧ postOpGas.toNat < limit 128
      ∧ packed = address.toBytes ++ Bytes.ofBits 16 verificationGas ++ Bytes.ofBits 16 postOpGas
        ++ data

/-- A limit that fits 128 bits is written as it is. -/
theorem ofBits_clamp {gas : Word} (h : gas.toNat < limit 128) :
    Bytes.ofBits 16 (clamp 128 gas) = Bytes.ofBits 16 gas := by
  have hsame : (gas.setWidth 128).toNat = gas.toNat := by
    rw [BitVec.toNat_setWidth]
    exact Nat.mod_eq_of_lt h
  rw [clamp_of_lt h, Bytes.ofBits, Bytes.ofBits, hsame]

/-- A limit that fits 128 bits is read back from 16 bytes. -/
theorem toBits_ofBits {gas : Word} (h : gas.toNat < limit 128) :
    Bytes.toBits 256 (Bytes.ofBits 16 gas) = gas := by
  rw [Bytes.toBits, Bytes.ofBits, Bytes.toNat_ofNat (show gas.toNat < limit (8 * 16) from h),
    BitVec.ofNat_toNat, BitVec.setWidth_eq]

/-- A packed form is taken apart into the fields it is made of. -/
theorem unpack_append (address : Address) {verificationGas postOpGas : Word}
    (hverification : verificationGas.toNat < limit 128) (hpostOp : postOpGas.toNat < limit 128)
    (data : Bytes) :
    unpack (address.toBytes ++ Bytes.ofBits 16 verificationGas ++ Bytes.ofBits 16 postOpGas ++ data)
      = ⟨some address, some verificationGas, some postOpGas, some data⟩ := by
  -- The packed form as a row of its parts, cut in front of each of them.
  let packed := address.toBytes ++ (Bytes.ofBits 16 verificationGas
    ++ (Bytes.ofBits 16 postOpGas ++ data))
  have haddress : address.toBytes.length = 20 := Address.length_toBytes address
  have hfirst : (Bytes.ofBits 16 verificationGas).length = 16 := Bytes.length_ofBits 16 _
  have hsecond : (Bytes.ofBits 16 postOpGas).length = 16 := Bytes.length_ofBits 16 _
  have hdrop20 : packed.drop 20
      = Bytes.ofBits 16 verificationGas ++ (Bytes.ofBits 16 postOpGas ++ data) :=
    List.drop_left' haddress
  have hdrop36 : packed.drop 36 = Bytes.ofBits 16 postOpGas ++ data := by
    rw [← List.drop_drop (i := 16) (j := 20), hdrop20, List.drop_left' hfirst]
  have hdrop52 : packed.drop headerSize = data := by
    rw [headerSize, ← List.drop_drop (i := 16) (j := 36), hdrop36, List.drop_left' hsecond]
  have hlong : ¬ packed.length < headerSize := by
    rw [List.length_append, List.length_append, List.length_append, haddress, hfirst, hsecond,
      headerSize]
    omega
  rw [List.append_assoc, List.append_assoc]
  show unpack packed = _
  rw [unpack, if_neg hlong, hdrop20, hdrop36, hdrop52, List.take_left' haddress,
    List.take_left' hfirst, List.take_left' hsecond, Address.ofBytes_toBytes,
    toBits_ofBits hverification, toBits_ofBits hpostOp]

/-- A packed form splits exactly if it has a whole header, and into what it is taken apart to. -/
theorem splits_iff {packed : Bytes} {p : Paymaster} :
    Splits packed p ↔ headerSize ≤ packed.length ∧ p = unpack packed := by
  constructor
  · rintro ⟨address, verificationGas, postOpGas, data, hp, hverification, hpostOp, hpacked⟩
    rw [hp, hpacked, unpack_append address hverification hpostOp data]
    refine ⟨?_, rfl⟩
    simp only [headerSize, List.length_append, Address.length_toBytes, Bytes.length_ofBits]
    omega
  · rintro ⟨hlong, rfl⟩
    obtain ⟨hverification, hpostOp⟩ := unpack_fits packed
    have hpack := pack_unpack hlong
    rw [unpack, if_neg (Nat.not_lt.mpr hlong)] at hverification hpostOp hpack ⊢
    have hfirst := hverification _ rfl
    have hsecond := hpostOp _ rfl
    refine ⟨_, _, _, _, rfl, hfirst, hsecond, ?_⟩
    rw [← ofBits_clamp hfirst, ← ofBits_clamp hsecond]
    exact hpack.symm

/-- Packed and taken apart again a paymaster has the same fields, and those that were missing with
nothing in them. -/
theorem unpack_pack {p : Paymaster} {address : Address} (haddress : p.address = some address)
    (hverification : ∀ gas ∈ p.verificationGas, gas.toNat < limit 128)
    (hpostOp : ∀ gas ∈ p.postOpGas, gas.toNat < limit 128) :
    unpack p.pack = ⟨some address, some (p.verificationGas.getD 0), some (p.postOpGas.getD 0),
      some (p.data.getD [])⟩ := by
  have hgetD : ∀ {limit? : Option Word}, (∀ gas ∈ limit?, gas.toNat < limit 128) →
      (limit?.getD 0).toNat < limit 128 := by
    intro limit? hfits
    cases limit? with
    | none => exact limit_pos 128
    | some gas => exact hfits gas rfl
  have hpack : p.pack = address.toBytes ++ Bytes.ofBits 16 (p.verificationGas.getD 0)
      ++ Bytes.ofBits 16 (p.postOpGas.getD 0) ++ p.data.getD [] := by
    rw [pack, haddress, ← ofBits_clamp (hgetD hverification), ← ofBits_clamp (hgetD hpostOp)]
  rw [hpack, unpack_append address (hgetD hverification) (hgetD hpostOp)]

/-! ### Packing again -/

/-- A packed form is empty, or long enough for an address and two limits. -/
theorem pack_eq_nil_or_le (p : Paymaster) : p.pack = [] ∨ headerSize ≤ p.pack.length := by
  cases h : p.address with
  | none =>
    left
    rw [pack, h]
  | some address =>
    right
    rw [pack, h]
    simp only [headerSize, List.length_append, Address.length_toBytes, Bytes.length_ofBits]
    omega

/-- Taking a packed form apart and packing it again changes nothing. -/
theorem pack_unpack_pack (p : Paymaster) : (unpack p.pack).pack = p.pack := by
  rcases p.pack_eq_nil_or_le with hnil | hle
  · rw [hnil, unpack_of_lt (by decide)]
    rfl
  · exact pack_unpack hle

end Paymaster

end SafeOps
