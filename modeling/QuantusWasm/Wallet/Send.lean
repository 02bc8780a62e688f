import QuantusWasm.Effect.Interleaving
import QuantusWasm.Js.Index
import QuantusWasm.Runtime.Admission

/-!
# The example wallet

`examples/wallet.mjs` sends a call, with the chain context that
`examples/chain-context.mjs` reads from a node.  Between any two of its
questions the node may move on.  What the node is, how it moves and what
polkadot.js answers about it are parameters, and what is relied on of them is
said by name.
-/

namespace QuantusWasm.Wallet

open Ecma Effect Ext Js QuantusWasm.Runtime

/-! ## The node -/

/-- A node with states `σ` and moves `ι`. -/
structure Node (σ ι : Type) where
  step : σ → ι → Option σ
  /-- What the runtime has where it checks an extrinsic in a state. -/
  view : σ → View
  /-- The next nonce of an account. -/
  nonce : σ → AccountId32 → Nat
  /-- The bytes of the extrinsic that a move applies, if it applies one. -/
  applies : ι → Option (List UInt8)
  /-- The account is removed, and its nonce with it. -/
  resets : ι → AccountId32 → Prop

/-- What polkadot.js reads once, when it connects. -/
structure Connection where
  genesisHash : Bytes32
  specVersion : Nat
  transactionVersion : Nat

/-- The answers of polkadot.js about a node in a state, each of which may fail. -/
structure Api (σ : Type) where
  /-- `ApiPromise.create`. -/
  connect : σ → Except Thrown Connection
  /-- The nonce in `query.system.account`. -/
  accountNonce : σ → Text → Except Thrown Nat
  /-- `rpc.chain.getBlockHash` without a number. -/
  getBlockHash : σ → Except Thrown Bytes32
  /-- The number in `rpc.chain.getHeader` of a hash. -/
  getHeader : σ → Bytes32 → Except Thrown Nat
  /-- `toNumber` of an integer. -/
  toNumber : Nat → Except Thrown Number

/-- `toHex` of a hash or of an encoded call. -/
def toHexText (content : List UInt8) : Text :=
  Text.ofChars (Wasm.hexText content)

/-! ## The chain context -/

/-- What `chainContext` returns. -/
structure ChainContext where
  period : Number
  blockNumber : Number
  blockHash : Text
  genesisHash : Text
  specVersion : Number
  transactionVersion : Number

/-- The end of `chainContext`, once the block hash and its header are there. -/
def chainContext {σ : Type} (api : Api σ) (connection : Connection) (period : Number)
    (blockHash : Bytes32) (headerNumber : Nat) : Except Thrown ChainContext := do
  let blockNumber ← api.toNumber headerNumber
  let specVersion ← api.toNumber connection.specVersion
  let transactionVersion ← api.toNumber connection.transactionVersion
  pure
    { period := period
      blockNumber := blockNumber
      blockHash := toHexText blockHash.toList
      genesisHash := toHexText connection.genesisHash.toList
      specVersion := specVersion
      transactionVersion := transactionVersion }

/-- The period where the caller names none. -/
def defaultPeriod : Number :=
  Number.ofInt 64

/-- The parameters `{ nonce, ...context }`. -/
def ChainContext.params (context : ChainContext) (nonce : Number) : CallParams where
  scheme := none
  nonce := .number nonce
  tip := .undefined
  period := .number context.period
  blockNumber := .number context.blockNumber
  genesisHash := .string context.genesisHash
  blockHash := .string context.blockHash
  specVersion := .number context.specVersion
  transactionVersion := .number context.transactionVersion

/-! ## The command `send` -/

/-- What the command line asks for, with the call as polkadot.js encodes it. -/
structure Order where
  mnemonic : Text
  accountIndex : Number
  call : List UInt8

/-- The options `{ account: accountIndex }`. -/
def Order.options (order : Order) : MnemonicOptions where
  scheme := none
  account := some order.accountIndex
  change := none
  addressIndex := none
  passphrase := none

/-- How far the command has come, with the answers it still needs. -/
inductive Phase where
  | started
  | derived (sender : QuantusAccount)
  | connected (sender : QuantusAccount) (connection : Connection)
  | nonceRead (connection : Connection) (nonce : Number)
  | hashRead (connection : Connection) (nonce : Number) (blockHash : Bytes32)
  /-- With the bytes that it submits, or what was thrown. -/
  | finished (result : Except Thrown (List UInt8))

/-- A command under way in its process. -/
structure Session where
  phase : Phase
  host : Host

section Send

variable {σ : Type} (crates : Crates) (api : Api σ) (order : Order)

/-- What follows the header: the context is put together and the call signed. -/
def Order.sign (connection : Connection) (nonce : Number) (blockHash : Bytes32)
    (headerNumber : Nat) : Action Host Thrown (List UInt8) := do
  let context ← Action.ofExcept (chainContext api connection defaultPeriod blockHash headerNumber)
  signCallFromMnemonic crates order.mnemonic (.string (toHexText order.call))
    (context.params nonce) order.options

/-- The nonce of the sender as a JavaScript number. -/
def Api.readNonce (state : σ) (sender : QuantusAccount) : Except Thrown Number := do
  let nonce ← api.accountNonce state sender.address
  api.toNumber nonce

end Send

/-! ## Wallets side by side -/

section Wallets

variable {σ ι κ : Type} [DecidableEq κ]

end Wallets

end QuantusWasm.Wallet
