import QuantusWasm.Codec.Core
import QuantusWasm.Codec.Compact
import QuantusWasm.Codec.Hex
import QuantusWasm.Ecma.Number
import QuantusWasm.Effect.Action
import QuantusWasm.Effect.Latch
import QuantusWasm.Ecma.Value
import QuantusWasm.Periodic.Window
import QuantusWasm.Word.Exact
import QuantusWasm.Crates
import QuantusWasm.Ext.Era
import QuantusWasm.Ext.Arithmetic
import QuantusWasm.Ext.Extrinsic
import QuantusWasm.Runtime.Era
import QuantusWasm.Runtime.Mortality
import QuantusWasm.Runtime.Grammar
import QuantusWasm.Runtime.RoundTrip
import QuantusWasm.Runtime.Envelope
import QuantusWasm.Reference
import QuantusWasm.Runtime.Acceptance
import QuantusWasm.Runtime.Payload
import QuantusWasm.Runtime.Uniqueness
import QuantusWasm.Runtime.Admission
import QuantusWasm.Wasm.Bindings
import QuantusWasm.Js.Index
import QuantusWasm.Js.Signing
import QuantusWasm.Js.Context
import QuantusWasm.Js.Serve
import QuantusWasm.Js.Pipeline
import QuantusWasm.Js.KeySelection
import QuantusWasm.Js.Recipient
import QuantusWasm.Js.Sample
import QuantusWasm.Js.HdPath
import QuantusWasm.Js.Counter
import QuantusWasm.Js.Immortal
import QuantusWasm.Js.Anchor
import QuantusWasm.Js.Amount
import QuantusWasm.Js.Representation
import QuantusWasm.Js.Equivalence
import QuantusWasm.Wasm.Refusal
import QuantusWasm.Js.Refusal
import QuantusWasm.Effect.Check
import QuantusWasm.Js.Complaint
import QuantusWasm.Effect.Log
import QuantusWasm.Js.Api
import QuantusWasm.Js.Interchange
import QuantusWasm.Js.Payee
import QuantusWasm.Js.Admission
import QuantusWasm.Js.Authorisation
import QuantusWasm.Effect.Interleaving
import QuantusWasm.Wallet.Send
import QuantusWasm.Wallet.Course
import QuantusWasm.Wallet.Anchoring
import QuantusWasm.Wallet.Contention
