import SafeOps.Proofs.Input
import SafeOps.Proofs.SafeOperation.Construction
import SafeOps.UserOperation.Text

/-!
# `SafeOps.Proofs.UserOperation.Text`: typed operations are read as they are meant

A caller types an operation field by field. `Renders` says which texts stand for an operation:
each field shows its value in any of the ways the readers allow, and an absent value of the
second generation is an absent text. In the first generation code and paymaster are always there,
but may be left out where they are empty. The texts for the other generation are free.

Every operation can be typed (`exists_renders`), and whichever way this is done, it is read back
whole (`parse_of_renders`). So a `SafeOperation` is made of the texts exactly if it is made of the
operation, and it has the hashes of the operation (`taken_of_renders`).
-/

set_option autoImplicit false

namespace SafeOps

namespace UserOperationText

open Input

/-! ### Texts of an operation -/

/-- A text shows a byte string, or there is no text and the byte string is empty. -/
def ShowsOrOmits (bs : Bytes) : Option String → Prop
  | none => bs = []
  | some text => ShowsBytes bs text

/-- The texts of its generation show what deploys the sender and who pays. -/
inductive RendersShape (t : UserOperationText) : Shape → Prop
  | v06 {code packed : Bytes} (hcode : ShowsOrOmits code t.initCode)
      (hpacked : ShowsOrOmits packed t.paymasterAndData) : RendersShape t (.v06 code packed)
  | v07 {factory : Option Address} {factoryData : Option Bytes} {p : Paymaster}
      (hfactory : Option.Rel ShowsAddress factory t.factory)
      (hfactoryData : Option.Rel ShowsBytes factoryData t.factoryData)
      (haddress : Option.Rel ShowsAddress p.address t.paymaster)
      (hverificationGas : Option.Rel ShowsQuantity p.verificationGas t.paymasterVerificationGas)
      (hpostOpGas : Option.Rel ShowsQuantity p.postOpGas t.paymasterPostOpGas)
      (hdata : Option.Rel ShowsBytes p.data t.paymasterData) :
      RendersShape t (.v07 factory factoryData p)

/-- The texts stand for an operation. -/
structure Renders (t : UserOperationText) (u : UserOperation) : Prop where
  sender : ShowsAddress u.sender t.sender
  nonce : ShowsQuantity u.nonce t.nonce
  callData : ShowsBytes u.callData t.callData
  callGas : ShowsQuantity u.gas.call t.callGas
  verificationGas : ShowsQuantity u.gas.verification t.verificationGas
  preVerificationGas : ShowsQuantity u.gas.preVerification t.preVerificationGas
  maxFee : ShowsQuantity u.gas.maxFee t.maxFee
  maxPriorityFee : ShowsQuantity u.gas.maxPriorityFee t.maxPriorityFee
  signature : ShowsBytes u.signature t.signature
  shape : t.RendersShape u.shape

theorem rel_map {α : Type} {shows : α → String → Prop} {render : α → String}
    (h : ∀ a, shows a (render a)) (x : Option α) : Option.Rel shows x (x.map render) := by
  cases x with
  | none => exact .none
  | some a => exact .some (h a)

theorem exists_rendersShape (shape : Shape) : ∃ t : UserOperationText, t.RendersShape shape := by
  let blank : UserOperationText := ⟨"", "", "", "", "", "", "", "", "", none, none, none, none,
    none, none, none, none⟩
  cases shape with
  | v06 code packed =>
    let t : UserOperationText := { blank with
      initCode := some (Hex.render code)
      paymasterAndData := some (Hex.render packed) }
    have hshape : t.RendersShape (.v06 code packed) :=
      .v06 (showsBytes_render code) (showsBytes_render packed)
    exact ⟨t, hshape⟩
  | v07 factory factoryData p =>
    let t : UserOperationText := { blank with
      factory := factory.map fun a => Hex.render a.toBytes
      factoryData := factoryData.map Hex.render
      paymaster := p.address.map fun a => Hex.render a.toBytes
      paymasterVerificationGas := p.verificationGas.map Quantity.hex
      paymasterPostOpGas := p.postOpGas.map Quantity.hex
      paymasterData := p.data.map Hex.render }
    have hshape : t.RendersShape (.v07 factory factoryData p) :=
      .v07 (rel_map showsAddress_render _) (rel_map showsBytes_render _)
        (rel_map showsAddress_render _) (rel_map showsQuantity_hex _)
        (rel_map showsQuantity_hex _) (rel_map showsBytes_render _)
    exact ⟨t, hshape⟩

/-- Every operation can be typed. -/
theorem exists_renders (u : UserOperation) : ∃ t : UserOperationText, t.Renders u := by
  obtain ⟨t, hshape⟩ := exists_rendersShape u.shape
  let t' : UserOperationText := { t with
    sender := Hex.render u.sender.toBytes
    nonce := Quantity.hex u.nonce
    callData := Hex.render u.callData
    callGas := Quantity.hex u.gas.call
    verificationGas := Quantity.hex u.gas.verification
    preVerificationGas := Quantity.hex u.gas.preVerification
    maxFee := Quantity.hex u.gas.maxFee
    maxPriorityFee := Quantity.hex u.gas.maxPriorityFee
    signature := Hex.render u.signature }
  have hrenders : t'.Renders u := {
    sender := showsAddress_render u.sender
    nonce := showsQuantity_hex u.nonce
    callData := showsBytes_render u.callData
    callGas := showsQuantity_hex u.gas.call
    verificationGas := showsQuantity_hex u.gas.verification
    preVerificationGas := showsQuantity_hex u.gas.preVerification
    maxFee := showsQuantity_hex u.gas.maxFee
    maxPriorityFee := showsQuantity_hex u.gas.maxPriorityFee
    signature := showsBytes_render u.signature
    shape := by
      -- What shows the shape is not among the texts that were put in.
      generalize u.shape = shape at hshape ⊢
      cases hshape with
      | v06 hcode hpacked => exact .v06 hcode hpacked
      | v07 hfactory hfactoryData haddress hverificationGas hpostOpGas hdata =>
        exact .v07 hfactory hfactoryData haddress hverificationGas hpostOpGas hdata }
  exact ⟨t', hrenders⟩

/-! ### Reading -/

theorem optional_of_rel {α : Type} {shows : α → String → Prop}
    {read : String → String → Except InputError α} {field : String}
    (hread : ∀ {a : α} {text : String}, shows a text → read field text = .ok a)
    {x : Option α} {text? : Option String} (h : Option.Rel shows x text?) :
    optional read field text? = .ok x := by
  cases h with
  | none => rfl
  | some hshows =>
    rw [optional, hread hshows]
    rfl

/-- A text that is left out and one that shows the empty byte string come to the same. -/
theorem optional_of_showsOrOmits (field : String) {bs : Bytes} {text? : Option String}
    (h : ShowsOrOmits bs text?) :
    ∃ x : Option Bytes, optional bytes field text? = .ok x ∧ x.getD [] = bs := by
  cases text? with
  | none => exact ⟨none, rfl, h.symm⟩
  | some text => exact ⟨some bs, optional_of_rel (bytes_of_shows field) (.some h), rfl⟩

theorem parseShape_of_renders {t : UserOperationText} {shape : Shape} (h : t.RendersShape shape) :
    t.parseShape shape.generation = .ok shape := by
  cases h with
  | v06 hcode hpacked =>
    obtain ⟨code, hreadCode, rfl⟩ := optional_of_showsOrOmits "init_code" hcode
    obtain ⟨packed, hreadPacked, rfl⟩ := optional_of_showsOrOmits "paymaster_and_data" hpacked
    rw [Shape.generation, parseShape, hreadCode, hreadPacked]
    rfl
  | v07 hfactory hfactoryData haddress hverificationGas hpostOpGas hdata =>
    rw [Shape.generation, parseShape, optional_of_rel (address_of_shows _) hfactory,
      optional_of_rel (bytes_of_shows _) hfactoryData,
      optional_of_rel (address_of_shows _) haddress,
      optional_of_rel (quantity_of_shows _) hverificationGas,
      optional_of_rel (quantity_of_shows _) hpostOpGas, optional_of_rel (bytes_of_shows _) hdata]
    rfl

/-- Whatever texts stand for an operation, they are read as the operation. -/
theorem parse_of_renders {t : UserOperationText} {u : UserOperation} (h : t.Renders u) :
    t.parse u.generation = .ok u := by
  rw [parse, address_of_shows _ h.sender, quantity_of_shows _ h.nonce,
    bytes_of_shows _ h.callData, quantity_of_shows _ h.callGas,
    quantity_of_shows _ h.verificationGas, quantity_of_shows _ h.preVerificationGas,
    quantity_of_shows _ h.maxFee, quantity_of_shows _ h.maxPriorityFee,
    bytes_of_shows _ h.signature, UserOperation.generation, parseShape_of_renders h.shape]
  rfl

/-! ### Taking typed operations -/

/-- An operation that is taken has the hashes it had before. -/
theorem hash_of_ofUserOperation {u : UserOperation} {c : SigningContext} {s : SafeOperation}
    (h : SafeOperation.ofUserOperation u c = .ok s) :
    s.hash = u.ownerHash c ∧ s.entryPointHash = u.entryPointHash c.entryPoint c.chainId := by
  obtain ⟨-, -, -, rfl⟩ := SafeOperation.ofUserOperation_eq_ok_iff.mp h
  exact ⟨rfl, rfl⟩

/-- Every operation can be typed. Whichever way it is typed, it is read back exactly. So an
operation to be signed is made of the texts as it is made of the operation, or refused with the
same error, and what owners and the entry point hash is the operation that was typed. -/
theorem parse_exact (u : UserOperation) :
    (∃ t : UserOperationText, t.Renders u)
      ∧ ∀ t : UserOperationText, t.Renders u →
          t.parse u.generation = .ok u
          ∧ ∀ c : SigningContext,
              (t.parse u.generation).map (SafeOperation.ofUserOperation · c)
                = .ok (SafeOperation.ofUserOperation u c)
              ∧ ∀ s, (t.parse u.generation).map (SafeOperation.ofUserOperation · c) = .ok (.ok s) →
                  s.hash = u.ownerHash c
                    ∧ s.entryPointHash = u.entryPointHash c.entryPoint c.chainId := by
  refine ⟨exists_renders u, fun t h => ?_⟩
  have hparse := parse_of_renders h
  have htaken : ∀ c, (t.parse u.generation).map (SafeOperation.ofUserOperation · c)
      = .ok (SafeOperation.ofUserOperation u c) := fun c => by
    rw [hparse]
    rfl
  refine ⟨hparse, fun c => ⟨htaken c, fun s hs => ?_⟩⟩
  exact hash_of_ofUserOperation (Except.ok.inj ((htaken c).symm.trans hs))

/-- An address in letters of either case between blanks, quantities in hexadecimal and in decimal
with zeros before them, and texts that are left out. -/
theorem parse_exact_sample :
    ∃ (t : UserOperationText) (u : UserOperation),
      t.sender = "\u3000 0x000000000000000000000000000000000000aBcD\n"
      ∧ t.nonce = "0X00fF" ∧ t.callGas = "\t0012" ∧ t.callData = "0xC0fe" ∧ t.factory = none
      ∧ t.paymasterPostOpGas = some "7 "
      ∧ u.sender = ⟨0xABCD⟩ ∧ u.nonce = 255 ∧ u.gas.call = 12 ∧ u.callData = [0xC0, 0xFE]
      ∧ t.Renders u ∧ t.parse .v07 = .ok u := by
  let t : UserOperationText := {
    sender := "\u3000 0x000000000000000000000000000000000000aBcD\n"
    nonce := "0X00fF"
    callData := "0xC0fe"
    callGas := "\t0012"
    verificationGas := "1"
    preVerificationGas := "1"
    maxFee := "1"
    maxPriorityFee := "1"
    signature := "0x"
    paymasterPostOpGas := some "7 " }
  let u : UserOperation := {
    sender := ⟨0xABCD⟩
    nonce := 255
    callData := [0xC0, 0xFE]
    gas := ⟨12, 1, 1, 1, 1⟩
    shape := .v07 none none { postOpGas := some 7 }
    signature := [] }
  have hsender : Hex.Spells u.sender.toBytes "0x000000000000000000000000000000000000aBcD" :=
    ⟨"0x", by decide, "000000000000000000000000000000000000aBcD".toList, by decide, rfl⟩
  have hnonce : Quantity.Spells 255 ("0X" ++ String.ofList "00fF".toList) :=
    .hex 2 (by decide) (by decide)
  have hcallData : Hex.Spells u.callData "0xC0fe" :=
    ⟨"0x", by decide, "C0fe".toList, by decide, rfl⟩
  have hcallGas : ShowsQuantity (12 : Word) "\t0012" :=
    ⟨"0012", .decimal 2, ['\t'], [], by decide, by decide, by decide⟩
  have hone : ShowsQuantity (1 : Word) "1" := ⟨"1", .decimal 0, Text.padded_refl "1"⟩
  have hseven : ShowsQuantity (7 : Word) "7 " :=
    ⟨"7", .decimal 0, [], [' '], by decide, by decide, by decide⟩
  have hrenders : t.Renders u := {
    sender := ⟨_, hsender, ['\u3000', ' '], ['\n'], by decide, by decide, by decide⟩
    nonce := ⟨_, hnonce, Text.padded_refl _⟩
    callData := ⟨_, hcallData, Text.padded_refl _⟩
    callGas := hcallGas
    verificationGas := hone
    preVerificationGas := hone
    maxFee := hone
    maxPriorityFee := hone
    signature := showsBytes_render []
    shape := .v07 .none .none .none .none (.some hseven) .none }
  exact ⟨t, u, rfl, rfl, rfl, rfl, rfl, rfl, rfl, rfl, rfl, rfl, hrenders,
    ((parse_exact u).2 t hrenders).1⟩

end UserOperationText

end SafeOps
