import Mathlib.Data.Vector.Defs

/-!
# Data of the extrinsic signer

The constants, schemes and records of `src/ext.rs`.  A `u128` is a bit vector,
a `[u8; 32]` a vector, a byte slice a list, and a Rust string the list of its
characters.
-/

namespace QuantusWasm.Ext

/-- `[u8; 32]`. -/
abbrev Bytes32 := List.Vector UInt8 32

/-- `AccountId32`. -/
abbrev AccountId32 := Bytes32

/-- SS58 network prefix for Quantus. -/
def ss58Prefix : UInt16 := 189

/-- FIPS 204 context string of every extrinsic signature. -/
def signingContext : List UInt8 :=
  ['Q', 'U', 'A', 'N', 'T', 'U', 'S', '_', 'E', 'X', 'T', 'R', 'I', 'N', 'S', 'I', 'C'].map
    fun char => UInt8.ofNat char.toNat

/-- Extrinsic format version. -/
def extrinsicVersion : UInt8 := 4

/-- A longer signing payload is hashed before it is signed. -/
def payloadHashThreshold : Nat := 256

/-- Index of the balances pallet. -/
def balancesPallet : UInt8 := 2

/-- Call index of `balances.transfer_allow_death`. -/
def balancesTransferAllowDeath : UInt8 := 0

/-- Call index of `balances.transfer_keep_alive`. -/
def balancesTransferKeepAlive : UInt8 := 3

/-- Index of the assets pallet. -/
def assetsPallet : UInt8 := 17

/-- Call index of `assets.transfer`. -/
def assetsTransfer : UInt8 := 8

/-- What a signing function can fail with. -/
inductive Error where
  | invalidSeed
  | signingFailed
  | invalidMortality
  | rngFailed
  deriving DecidableEq

namespace Error

/-- What is displayed of an error. -/
def message : Error → String
  | .invalidSeed => "seed must be at least 32 bytes"
  | .signingFailed => "ML-DSA signing failed"
  | .invalidMortality =>
      "block_number is not an era boundary for this period; pass the era checkpoint block"
  | .rngFailed => "system randomness unavailable; hedged signing needs a CSPRNG"

end Error

/-- Signature schemes the runtime accepts. -/
inductive Scheme where
  | mlDsa87
  | mlDsa65
  deriving DecidableEq, Inhabited

namespace Scheme

/-- Index of the scheme in the runtime's signature enumeration. -/
def variant : Scheme → UInt8
  | mlDsa87 => 0
  | mlDsa65 => 1

/-- Wallet-facing name. -/
def name : Scheme → List Char
  | mlDsa87 => ['m', 'l', '-', 'd', 's', 'a', '-', '8', '7']
  | mlDsa65 => ['m', 'l', '-', 'd', 's', 'a', '-', '6', '5']

/-- Scheme of a wallet-facing name. -/
def parse (text : List Char) : Option Scheme :=
  if text = ['m', 'l', '-', 'd', 's', 'a', '-', '8', '7'] then
    some mlDsa87
  else if text = ['m', 'l', '-', 'd', 's', 'a', '-', '6', '5'] then
    some mlDsa65
  else
    none

/-- `PUBLICKEYBYTES` of the scheme. -/
def publicKeyBytes : Scheme → Nat
  | mlDsa87 => 2592
  | mlDsa65 => 1952

/-- `SECRETKEYBYTES` of the scheme. -/
def secretKeyBytes : Scheme → Nat
  | mlDsa87 => 4896
  | mlDsa65 => 4032

/-- `SIGNBYTES` of the scheme. -/
def signBytes : Scheme → Nat
  | mlDsa87 => 4627
  | mlDsa65 => 3309

/-- The names are the only accepted spellings. -/
theorem parse_eq_some_iff {text : List Char} {scheme : Scheme} :
    parse text = some scheme ↔ text = scheme.name := by
  unfold parse
  split_ifs with first second
  · cases scheme <;> simp [first, name]
  · cases scheme <;> simp [second, name]
  · cases scheme <;> simp [first, second, name]

end Scheme

/-- Chain context shared by every signed extrinsic. -/
structure SignContext where
  nonce : UInt64
  tip : BitVec 128
  /-- Mortal era period in blocks; zero means immortal. -/
  period : UInt64
  /-- Block the mortal era is anchored to. -/
  blockNumber : UInt64
  genesisHash : Bytes32
  blockHash : Bytes32
  specVersion : UInt32
  transactionVersion : UInt32
  deriving DecidableEq

/-- A transfer together with the context it is signed in. -/
structure TransferParams where
  recipient : AccountId32
  amount : BitVec 128
  /-- An asset transfer of this asset, or a balances transfer. -/
  assetId : Option UInt32
  /-- Which of the two balances transfers; ignored for assets. -/
  keepAlive : Bool
  ctx : SignContext
  deriving DecidableEq

/-- Derived account material. -/
structure AccountKeys where
  scheme : Scheme
  publicKey : List UInt8
  secretKey : List UInt8
  accountId : Bytes32
  address : List Char
  deriving DecidableEq

end QuantusWasm.Ext
