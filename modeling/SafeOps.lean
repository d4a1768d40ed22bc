import SafeOps.Abi
import SafeOps.Account
import SafeOps.Account.Codec
import SafeOps.Account.Opening
import SafeOps.Account.Preparation
import SafeOps.Account.Submission
import SafeOps.Address
import SafeOps.Analytics
import SafeOps.Binary64
import SafeOps.Binary64.Shortest
import SafeOps.Bytes
import SafeOps.Call
import SafeOps.Call.Batch
import SafeOps.Call.Codec
import SafeOps.Call.MultiSend
import SafeOps.Config
import SafeOps.Contract
import SafeOps.Contracts
import SafeOps.Contracts.Codec
import SafeOps.Crypto.Keccak
import SafeOps.Crypto.Secp256k1
import SafeOps.Crypto.Sha256
import SafeOps.Deployment
import SafeOps.Deployment.Codec
import SafeOps.Endpoint
import SafeOps.EntryPoint
import SafeOps.Estimation
import SafeOps.Failure
import SafeOps.GasPrice
import SafeOps.Hex
import SafeOps.Input
import SafeOps.Json
import SafeOps.Json.Codec
import SafeOps.Json.Field
import SafeOps.Json.Number
import SafeOps.Json.Outline
import SafeOps.Json.Reader
import SafeOps.Log
import SafeOps.Log.Codec
import SafeOps.Log.Context
import SafeOps.Node
import SafeOps.Node.Codec
import SafeOps.Node.Remote
import SafeOps.NonceLane
import SafeOps.Payment
import SafeOps.Payment.Codec
import SafeOps.Pricing
import SafeOps.Program
import SafeOps.Proofs.Abi
import SafeOps.Proofs.Account.Acceptance
import SafeOps.Proofs.Account.Admission
import SafeOps.Proofs.Account.Answers
import SafeOps.Proofs.Account.Composition
import SafeOps.Proofs.Account.Endorsement
import SafeOps.Proofs.Account.Opening
import SafeOps.Proofs.Account.Order
import SafeOps.Proofs.Account.Preparation
import SafeOps.Proofs.Account.Pricing
import SafeOps.Proofs.Account.Requests
import SafeOps.Proofs.Account.SettingUp
import SafeOps.Proofs.Account.SigningDomain
import SafeOps.Proofs.Account.Steps
import SafeOps.Proofs.Account.Waiting
import SafeOps.Proofs.Bytes
import SafeOps.Proofs.Call.Batch
import SafeOps.Proofs.Call.MultiSend
import SafeOps.Proofs.Call.MultiSend.Format
import SafeOps.Proofs.Crypto.Preimage
import SafeOps.Proofs.Deployment
import SafeOps.Proofs.Deployment.Overrides
import SafeOps.Proofs.Endpoint
import SafeOps.Proofs.Failable
import SafeOps.Proofs.GasPrice
import SafeOps.Proofs.Hex
import SafeOps.Proofs.HexText
import SafeOps.Proofs.Input
import SafeOps.Proofs.Json.Codec
import SafeOps.Proofs.Json.Members
import SafeOps.Proofs.Json.Outline
import SafeOps.Proofs.Json.Text
import SafeOps.Proofs.Log.Context
import SafeOps.Proofs.Node
import SafeOps.Proofs.NonceLane
import SafeOps.Proofs.Pricing
import SafeOps.Proofs.Program
import SafeOps.Proofs.Program.Course
import SafeOps.Proofs.Program.Outcome
import SafeOps.Proofs.Program.Transcript
import SafeOps.Proofs.Quantity
import SafeOps.Proofs.Rpc.Answer
import SafeOps.Proofs.Rpc.Client
import SafeOps.Proofs.Rpc.Session
import SafeOps.Proofs.SafeOperation.Binding
import SafeOps.Proofs.SafeOperation.Collecting
import SafeOps.Proofs.SafeOperation.Construction
import SafeOps.Proofs.SafeOperation.Digest
import SafeOps.Proofs.SafeOperation.Estimating
import SafeOps.Proofs.SafeOperation.Generations
import SafeOps.Proofs.SafeOperation.Invariant
import SafeOps.Proofs.SafeOperation.Layering
import SafeOps.Proofs.SafeOperation.PackedFields
import SafeOps.Proofs.SafeOperation.Payment
import SafeOps.Proofs.SafeOperation.Repacking
import SafeOps.Proofs.SafeOperation.Rereading
import SafeOps.Proofs.SafeOperation.Resuming
import SafeOps.Proofs.SafeOperation.Run
import SafeOps.Proofs.SafeOperation.SignedContent
import SafeOps.Proofs.SafeOperation.Window
import SafeOps.Proofs.Signature.Collection
import SafeOps.Proofs.Signature.Layout
import SafeOps.Proofs.Signer
import SafeOps.Proofs.Signer.Methods
import SafeOps.Proofs.Signing.Passkey
import SafeOps.Proofs.SigningContext
import SafeOps.Proofs.Text.Ascii
import SafeOps.Proofs.Text.Blank
import SafeOps.Proofs.Text.Digits
import SafeOps.Proofs.Text.Split
import SafeOps.Proofs.Timestamp
import SafeOps.Proofs.TypedData.Codec
import SafeOps.Proofs.TypedData.Flat
import SafeOps.Proofs.TypedData.Member
import SafeOps.Proofs.TypedData.Scalar
import SafeOps.Proofs.Url.Domain
import SafeOps.Proofs.Url.Host
import SafeOps.Proofs.Url.IpAddress
import SafeOps.Proofs.Url.Ipv4
import SafeOps.Proofs.UserOperation.Codec
import SafeOps.Proofs.UserOperation.Fits
import SafeOps.Proofs.UserOperation.Merging
import SafeOps.Proofs.UserOperation.Payload
import SafeOps.Proofs.UserOperation.Paymaster
import SafeOps.Proofs.UserOperation.Preimage
import SafeOps.Proofs.UserOperation.RecordType
import SafeOps.Proofs.UserOperation.Refusal
import SafeOps.Proofs.UserOperation.Text
import SafeOps.Proofs.UserOperation.Words
import SafeOps.Proofs.Version
import SafeOps.Proofs.Version.Text
import SafeOps.Quantity
import SafeOps.Receipt
import SafeOps.Rehearsal.Chain
import SafeOps.Rehearsal.Codec
import SafeOps.Rehearsal.Network
import SafeOps.Rehearsal.Owner
import SafeOps.Rehearsal.Stage
import SafeOps.Rpc
import SafeOps.Rpc.Bundler
import SafeOps.Rpc.Client
import SafeOps.Rpc.PaymasterService
import SafeOps.SafeOperation
import SafeOps.SafeOperation.Record
import SafeOps.SafeOperation.RecordCodec
import SafeOps.SafeOperation.Summary
import SafeOps.Signature
import SafeOps.Signature.Codec
import SafeOps.Signer
import SafeOps.Signing
import SafeOps.Signing.LocalKey
import SafeOps.Signing.Passkey
import SafeOps.SigningContext
import SafeOps.Text.Bidi
import SafeOps.Text.Blank
import SafeOps.Text.CombiningClass
import SafeOps.Text.Decomposition
import SafeOps.Text.Digits
import SafeOps.Text.Joining
import SafeOps.Text.Mark
import SafeOps.Text.Normal
import SafeOps.Text.Quoted
import SafeOps.Text.Runs
import SafeOps.Text.Split
import SafeOps.Text.Table
import SafeOps.Text.Unassigned
import SafeOps.Text.Utf8
import SafeOps.Timestamp
import SafeOps.TypedData
import SafeOps.TypedData.Codec
import SafeOps.TypedData.Fault
import SafeOps.TypedData.Member
import SafeOps.TypedData.RecordTypes
import SafeOps.TypedData.TypeName
import SafeOps.TypedData.ValueType
import SafeOps.TypedData.Word
import SafeOps.Url
import SafeOps.Url.Domain
import SafeOps.Url.Host
import SafeOps.Url.IpAddress
import SafeOps.Url.Ipv4
import SafeOps.Url.Ipv6
import SafeOps.Url.Mapping
import SafeOps.Url.Punycode
import SafeOps.UserOperation
import SafeOps.UserOperation.Codec
import SafeOps.UserOperation.DraftCodec
import SafeOps.UserOperation.Hash
import SafeOps.UserOperation.Text
import SafeOps.Version
import SafeOps.Width
