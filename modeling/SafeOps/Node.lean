import SafeOps.Abi
import SafeOps.Rpc

/-!
# `SafeOps.Node`: questions about accounts and the chain

A node knows the state of accounts and of the chain. `NodeQuery` lists what this library
asks, and `NodeQuery.Answer` says what each question is answered with. Whoever answers,
a service or something in memory, does so through `NodeError` if it cannot.
-/

set_option autoImplicit false

namespace SafeOps

/-- A question to a node. -/
inductive NodeQuery where
  | chainId
  /-- Whether there is code at an address. -/
  | isDeployed (address : Address)
  | owners (account : Address)
  /-- How many owners have to sign. -/
  | threshold (account : Address)
  | version (account : Address)
  | isModuleEnabled (account module : Address)
  | fallbackHandler (account : Address)
  /-- The next nonce of a sender in a lane. -/
  | nonce (entryPoint sender : Address) (key : BitVec 192)
  /-- The code with which a factory deploys accounts. -/
  | creationCode (factory : Address)
  | gasPrice
  | maxPriorityFee
  deriving DecidableEq, Repr

/-- What a question is answered with. -/
abbrev NodeQuery.Answer : NodeQuery → Type
  | .chainId => BitVec 64
  | .isDeployed _ => Bool
  | .owners _ => List Address
  | .threshold _ => BitVec 64
  | .version _ => String
  | .isModuleEnabled _ _ => Bool
  | .fallbackHandler _ => Address
  | .nonce _ _ _ => Word
  | .creationCode _ => Bytes
  | .gasPrice => Word
  | .maxPriorityFee => Word

/-- What is wrong with an answer. -/
inductive NodeFault where
  /-- The result of a function could not be read. -/
  | result (signature : String) (fault : Abi.Fault)
  /-- The threshold does not fit 64 bits. -/
  | threshold (value : Word)
  /-- The fault in the words of whoever answered. -/
  | reported (text : String)
  deriving DecidableEq, Repr

/-- The fault in words. -/
def NodeFault.message : NodeFault → String
  | .result signature fault => signature ++ ": " ++ fault.message
  | .threshold value => "threshold " ++ Quantity.decimal value ++ " out of range"
  | .reported text => text

/-- Why a question has no answer. -/
inductive NodeError where
  | rpc (error : RpcError)
  | unexpected (fault : NodeFault)
  /-- Any other failure, in words. -/
  | other (message : String)
  deriving DecidableEq, Repr

/-- The error in words. -/
def NodeError.message : NodeError → String
  | .rpc error => error.message
  | .unexpected fault => "unexpected node response: " ++ fault.message
  | .other message => message

end SafeOps
