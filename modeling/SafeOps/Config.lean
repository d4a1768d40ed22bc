import SafeOps.Address
import SafeOps.Version

/-!
# `SafeOps.Config`: what can be wrong with a configuration

An account works with one release of the module contracts on one chain. The addresses
of the contracts follow from the two, and a configuration is refused if they do not.
-/

set_option autoImplicit false

namespace SafeOps

/-- Why a configuration was refused. -/
inductive ConfigError where
  /-- No deployment is known for the chain and the release. -/
  | unknownDeployment (chainId : BitVec 64) (modules : Version)
  /-- The address is none of the known entry points. -/
  | unknownEntryPoint (address : Address)
  /-- The release is older than the first supported one. -/
  | unsupportedModules (modules : Version)
  /-- The text is no version. -/
  | invalidVersion (text : String) (fault : Version.Fault)
  /-- Any other failure, in words. -/
  | other (message : String)
  deriving DecidableEq, Repr

/-- The error in words. -/
def ConfigError.message : ConfigError → String
  | .unknownDeployment chainId modules =>
    "address not found for this network: no Safe 4337 deployment registered for chain "
      ++ toString chainId.toNat ++ " and modules version " ++ modules.text
  | .unknownEntryPoint address => "unknown entry point " ++ address.checksummed
  | .unsupportedModules modules => "unsupported Safe modules version " ++ modules.text
  | .invalidVersion text fault => "invalid version " ++ text ++ ": " ++ fault.message
  | .other message => message

namespace Config

/-- The version a caller or a contract states. -/
def version (text : String) : Except ConfigError Version :=
  (Version.readLoose text).mapError (.invalidVersion text)

/-- The oldest account version that can obey the module. -/
def minimalAccountVersion : Version :=
  .release 1 4 1

end Config

end SafeOps
