import QuantusWasm.Ext.Core
import QuantusWasm.Ecma.Value

/-!
# Code outside the repository

The functions the repository takes from other crates and from the JavaScript
glue, as parameters of everything that calls them.  What a result relies on
about one of them is a named hypothesis of that result.  The host state keeps
what a caller cannot see in a returned value: how often randomness was drawn,
what was signed, which keys were derived, and what was logged.
-/

namespace QuantusWasm

open Ext

/-- One parameter set of the ML-DSA crate. -/
structure MlDsa (scheme : Scheme) where
  Keypair : Type
  generate : Bytes32 → Keypair
  publicKey : Keypair → List.Vector UInt8 scheme.publicKeyBytes
  secretKey : Keypair → List.Vector UInt8 scheme.secretKeyBytes
  /-- Sign a message, optionally under a context string and with hedging
  randomness. -/
  sign : Keypair → List UInt8 → Option (List UInt8) → Option Bytes32 →
    Option (List.Vector UInt8 scheme.signBytes)

/-- How a parameter object reaches a field of a serde structure: directly, or
through the buffer that collects the fields of a flattened structure. -/
inductive Route where
  | direct
  | flattened
  deriving DecidableEq

/-- The outside crates and platform functions the package calls. -/
structure Crates where
  mlDsa : (scheme : Scheme) → MlDsa scheme
  /-- The Poseidon hash of account ids. -/
  hashBytes : List UInt8 → Bytes32
  blake2_256 : List UInt8 → Bytes32
  /-- The outcome of each call of the platform generator, by its number. -/
  getrandom : Nat → Option Bytes32
  toSs58checkWithVersion : AccountId32 → UInt16 → List Char
  fromSs58checkWithVersion : List Char → Option (AccountId32 × UInt16)
  /-- Hierarchical derivation from mnemonic, passphrase and path. -/
  deriveKeyFromMnemonic : (scheme : Scheme) → List Char → Option (List Char) → List Char →
    Except String (mlDsa scheme).Keypair
  /-- What serde reads a JavaScript number as in a `u64` field. -/
  deserializeU64 : Route → Ecma.Number → Except String UInt64
  /-- What serde reads any JavaScript value as in a `u32` field. -/
  deserializeU32 : Route → Ecma.Value → Except String UInt32
  /-- Whether serde can hold a JavaScript value other than a number in the
  buffer of a flattened structure. -/
  bufferValue : Ecma.Value → Except String Unit

/-- serde takes a JavaScript number for a `u64` only when it is a safe integer,
and keeps its value. -/
def ReadsSafeIntegers (crates : Crates) : Prop :=
  ∀ {route number word}, crates.deserializeU64 route number = .ok word →
    number.isSafeInteger = true ∧ number.integer? = some (word.toNat : Int)

/-- One invocation of ML-DSA signing, with the randomness it was given. -/
structure SignatureRecord where
  scheme : Scheme
  publicKey : List UInt8
  message : List UInt8
  context : Option (List UInt8)
  hedge : Option Bytes32
  signature : Option (List UInt8)
  deriving DecidableEq

/-- One invocation of hierarchical derivation. -/
structure DerivationRecord where
  scheme : Scheme
  mnemonic : List Char
  passphrase : Option (List Char)
  path : List Char
  deriving DecidableEq

/-- The state shared by all calls in one process. -/
structure Host where
  /-- How often `getrandom` has been called. -/
  draws : Nat
  signatures : List SignatureRecord
  derivations : List DerivationRecord
  /-- The flag that keeps the immortal warning from repeating. -/
  warnedImmortal : Bool
  /-- How many warnings have been logged. -/
  warnings : Nat
  deriving DecidableEq

namespace Host

/-- A process that has not called the package yet. -/
def initial : Host where
  draws := 0
  signatures := []
  derivations := []
  warnedImmortal := false
  warnings := 0

/-- The host after one more call of the generator. -/
def drawn (host : Host) : Host :=
  { host with draws := host.draws + 1 }

/-- The host after one more signing operation. -/
def signed (host : Host) (record : SignatureRecord) : Host :=
  { host with signatures := host.signatures ++ [record] }

/-- The host after one more derivation. -/
def derived (host : Host) (record : DerivationRecord) : Host :=
  { host with derivations := host.derivations ++ [record] }

@[simp]
theorem signatures_drawn (host : Host) : host.drawn.signatures = host.signatures :=
  rfl

@[simp]
theorem signatures_signed (host : Host) (record : SignatureRecord) :
    (host.signed record).signatures = host.signatures ++ [record] :=
  rfl

@[simp]
theorem draws_drawn (host : Host) : host.drawn.draws = host.draws + 1 :=
  rfl

@[simp]
theorem draws_signed (host : Host) (record : SignatureRecord) :
    (host.signed record).draws = host.draws :=
  rfl

end Host

end QuantusWasm
