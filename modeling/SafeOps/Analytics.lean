import SafeOps.Crypto.Keccak

/-!
# `SafeOps.Analytics`: marks that tell where an operation comes from

A mark of 32 bytes follows the data of an operation's call. It starts with a fixed
sign and the version of its layout; the last bytes of the hashes of the project, of the
platform and of this tool with its version follow.

* `length_identifier`: a mark has 32 bytes.
-/

set_option autoImplicit false

namespace SafeOps

/-- Who builds operations, and on what. -/
structure Analytics where
  project : String
  /-- The platform, the web unless stated otherwise. -/
  platform : Option String := none
  deriving DecidableEq, Repr

namespace Analytics

/-- The name of this tool. -/
def tool : String := "safe4337"

/-- The version of this tool. -/
def toolVersion : String := "0.1.0"

/-- The last `count` bytes of the hash of a text. -/
def hashTail (count : Nat) (text : String) : Bytes :=
  (keccak256 (Bytes.ofText text)).toBytes.drop (32 - count)

/-- The mark. -/
def identifier (a : Analytics) : Bytes :=
  [0x5A, 0xFE, 0x00] ++ hashTail 20 a.project ++ hashTail 3 (a.platform.getD "Web")
    ++ hashTail 3 tool ++ hashTail 3 toolVersion

theorem length_identifier (a : Analytics) : a.identifier.length = 32 := by
  simp [identifier, hashTail, Hash.toBytes]

end Analytics

end SafeOps
