import QuantusWasm.Wasm.Bindings

/-!
# The package's TypeScript layer

The functions of `js/index.ts`.  A property that may be missing or of the wrong
type is an arbitrary JavaScript value; an optional string or index is `none`
when it is absent.  Strings and numbers cross into wasm by the conversions of
the generated glue.
-/

namespace QuantusWasm.Js

open Ecma Effect

/-- Material derived from a seed or a mnemonic. -/
structure QuantusAccount where
  scheme : Text
  publicKey : List UInt8
  secretKey : List UInt8
  accountId : List UInt8
  address : Text
  deriving DecidableEq

/-- Options for seed-based account derivation. -/
structure AccountOptions where
  scheme : Option Text

/-- Chain context shared by every signed extrinsic. -/
structure CallParams where
  scheme : Option Text
  nonce : Value
  tip : Value
  period : Value
  blockNumber : Value
  genesisHash : Value
  blockHash : Value
  specVersion : Value
  transactionVersion : Value

/-- Parameters of a transfer. -/
structure TransferParams extends CallParams where
  recipient : Value
  amount : Value
  assetId : Value
  keepAlive : Value

/-- Derivation indices and passphrase. -/
structure MnemonicOptions where
  scheme : Option Text
  account : Option Number
  change : Option Number
  addressIndex : Option Number
  passphrase : Option Text

/-- Warn of an omitted period, unless it was warned of before. -/
def warnImmortalOnce : Action Host Thrown Unit := do
  let warned ← Action.query Host.warnedImmortal
  if warned then
    pure ()
  else
    Action.update fun host =>
      { host with warnedImmortal := true, warnings := host.warnings + 1 }

/-- A seed has 32 bytes. -/
def asSeed : Value → Except Thrown (List UInt8)
  | .uint8Array seed =>
      if seed.length ≠ 32 then .error (.typeError "seed must be a 32-byte Uint8Array")
      else .ok seed
  | _ => .error (.typeError "seed must be a 32-byte Uint8Array")

/-- Hexadecimal text of a hash; text is taken as it is. -/
def toHex (value : Value) (field : String) : Except Thrown Text :=
  match value with
  | .string text => .ok text
  | .uint8Array content => .ok (Text.ofChars ('0' :: 'x' :: Hex.encode content))
  | _ => .error (.typeError (field ++ " must be a hex string or Uint8Array"))

/-- `Number.prototype.toString` on a number without a fraction. -/
def numberToString (integer : Int) : List Char :=
  if integer < 0 then '-' :: Number.naturalToString integer.natAbs
  else Number.naturalToString integer.natAbs

/-- Decimal text of an amount; text is taken as it is. -/
def toDecimal (value : Value) (field : String) : Except Thrown Text :=
  match value with
  | .bigint integer => .ok (Text.ofChars (bigintToString integer))
  | .number number =>
      match number.integer? with
      | none => .error (.typeError (field ++ " must be a non-negative integer"))
      | some integer =>
          if number.lessThanZero then
            .error (.typeError (field ++ " must be a non-negative integer"))
          else
            .ok (Text.ofChars (numberToString integer))
  | .string text => .ok text
  | _ => .error (.typeError (field ++ " must be a bigint, integer, or decimal string"))

/-- A counter as a JavaScript number. -/
def toNumber (value : Value) (field : String) : Except Thrown Number :=
  let checked (number : Number) : Except Thrown Number :=
    if !number.isInteger || number.lessThanZero then
      .error (.typeError (field ++ " must be a non-negative integer"))
    else
      .ok number
  match value with
  | .bigint integer => checked (Number.ofInt integer)
  | .number number => checked number
  | _ => .error (.typeError (field ++ " must be a non-negative integer"))

/-- Text of a recipient: an address, or hexadecimal digits. -/
def toRecipient : Value → Except Thrown Text
  | .string text => .ok text
  | .uint8Array content => toHex (.uint8Array content) "recipient"
  | _ => .error
      (.typeError "recipient must be an SS58 string, hex string, or Uint8Array")

/-- The value of a hexadecimal digit of the text. -/
def hexDigitValue (unit : UInt16) : Option Nat :=
  if unit.toNat < 128 then Hex.digitValue (Char.ofNat unit.toNat) else none

/-- `Buffer.from(text, "hex")`: digit pairs up to the first that is not one. -/
def bufferFromHex : Text → List UInt8
  | high :: low :: rest =>
      match hexDigitValue high, hexDigitValue low with
      | some highValue, some lowValue =>
          UInt8.ofNat (16 * highValue + lowValue) :: bufferFromHex rest
      | _, _ => []
  | _ => []

/-- The text without a leading `0x`. -/
def withoutHexPrefix : Text → Text
  | zero :: x :: rest => if zero = 0x30 ∧ x = 0x78 then rest else zero :: x :: rest
  | text => text

/-- Bytes of an encoded call. -/
def toBytes (value : Value) (field : String) : Except Thrown (List UInt8) :=
  match value with
  | .uint8Array content => .ok content
  | .string text =>
      let hex := withoutHexPrefix text
      if hex.length % 2 ≠ 0 ∨ hex.any fun unit => (hexDigitValue unit).isNone then
        .error (.typeError (field ++ " must be a hex string or Uint8Array"))
      else
        .ok (bufferFromHex hex)
  | _ => .error (.typeError (field ++ " must be a hex string or Uint8Array"))

/-- The name of a scheme as JavaScript text. -/
def schemeText (scheme : Ext.Scheme) : Text :=
  Text.ofChars scheme.name

/-- The default address index of a scheme name. -/
def defaultAddressIndex (scheme : Option Text) : Number :=
  if scheme = some (schemeText .mlDsa65) then Number.ofInt 1 else Number.ofInt 0

/-- Copy an account out of wasm. -/
def materialize (handle : Wasm.Account) : QuantusAccount where
  scheme := schemeText handle.scheme
  publicKey := handle.publicKey
  secretKey := handle.secretKey
  accountId := handle.accountId
  address := Text.ofChars handle.address

/-- `value === undefined ? absent : convert(value)`. -/
def unlessUndefined {α : Type} (value : Value) (absent : α) (convert : Value → Except Thrown α) :
    Except Thrown α :=
  if value = .undefined then .ok absent else convert value

/-- The part of `encodeContext` that only computes. -/
def contextObject (params : CallParams) (scheme : Option Text) :
    Except Thrown Wasm.ContextObject := do
  let period ← unlessUndefined params.period (Number.ofInt 0) fun value =>
    toNumber value "period"
  if period.greaterThanZero = true ∧ params.blockHash = .undefined then
    .error (.typeError "blockHash is required for mortal eras (period > 0)")
  else
    let nonce ← toNumber params.nonce "nonce"
    let tip ← unlessUndefined params.tip (Text.ofChars ['0']) fun value => toDecimal value "tip"
    let blockNumber ← unlessUndefined params.blockNumber (Number.ofInt 0) fun value =>
      toNumber value "blockNumber"
    let genesisHash ← toHex params.genesisHash "genesisHash"
    let blockHash ← unlessUndefined params.blockHash none fun value =>
      (toHex value "blockHash").map some
    pure
      { scheme := scheme <|> params.scheme
        nonce := nonce
        tip := tip
        period := period
        blockNumber := blockNumber
        genesisHash := genesisHash
        blockHash := blockHash
        specVersion := params.specVersion
        transactionVersion := params.transactionVersion }

/-- The context object, with a warning if the period is omitted. -/
def encodeContext (params : CallParams) (scheme : Option Text) :
    Action Host Thrown Wasm.ContextObject := do
  if params.period = .undefined then warnImmortalOnce else pure ()
  Action.ofExcept (contextObject params scheme)

/-- The transfer object, around that of its context. -/
def encodeTransfer (params : TransferParams) (scheme : Option Text) :
    Action Host Thrown Wasm.TransferObject := do
  match params.keepAlive with
  | .boolean keepAlive =>
      let recipient ← Action.ofExcept (toRecipient params.recipient)
      let amount ← Action.ofExcept (toDecimal params.amount "amount")
      let ctx ← encodeContext params.toCallParams scheme
      pure
        { recipient := recipient
          amount := amount
          assetId := params.assetId
          keepAlive := keepAlive
          ctx := ctx }
  | _ => Action.throw (.typeError
      ("keepAlive is required: true builds balances.transfer_keep_alive, " ++
        "false builds balances.transfer_allow_death"))

section Exports

variable (crates : Crates)

/-- Derive keypair, account id and address from a seed. -/
def account (seed : Value) (opts : AccountOptions) : Except Thrown QuantusAccount := do
  let seed ← asSeed seed
  let handle ← Wasm.account crates seed (opts.scheme.map Text.toScalars)
  pure (materialize handle)

/-- The three indices as the wasm glue converts them. -/
def indices (opts : MnemonicOptions) (scheme : Option Text) : UInt32 × UInt32 × UInt32 :=
  ((opts.account.getD (Number.ofInt 0)).toUint32, (opts.change.getD (Number.ofInt 0)).toUint32,
    (opts.addressIndex.getD (defaultAddressIndex scheme)).toUint32)

/-- Derive an account along the Quantus path of a mnemonic. -/
def accountFromMnemonic (mnemonic : Text) (opts : MnemonicOptions) :
    Action Host Thrown QuantusAccount := do
  let (account, change, addressIndex) := indices opts opts.scheme
  let handle ← Wasm.accountFromMnemonic crates mnemonic.toScalars account change addressIndex
    (opts.passphrase.map Text.toScalars) (opts.scheme.map Text.toScalars)
  pure (materialize handle)

/-- Sign a transfer with the key of a seed. -/
def signTransfer (seed : Value) (params : TransferParams) : Action Host Thrown (List UInt8) := do
  let seed ← Action.ofExcept (asSeed seed)
  let object ← encodeTransfer params none
  Wasm.signTransfer crates seed object

/-- Sign a transfer with a key of a mnemonic. -/
def signTransferFromMnemonic (mnemonic : Text) (params : TransferParams)
    (opts : MnemonicOptions) : Action Host Thrown (List UInt8) := do
  let scheme := opts.scheme <|> params.scheme
  let object ← encodeTransfer params scheme
  let (account, change, addressIndex) := indices opts scheme
  Wasm.signTransferFromMnemonic crates mnemonic.toScalars object account change addressIndex
    (opts.passphrase.map Text.toScalars)

/-- Sign an encoded call with the key of a seed. -/
def signCall (seed call : Value) (params : CallParams) : Action Host Thrown (List UInt8) := do
  let seed ← Action.ofExcept (asSeed seed)
  let call ← Action.ofExcept (toBytes call "call")
  let object ← encodeContext params none
  Wasm.signCall crates seed call object

/-- Sign an encoded call with a key of a mnemonic. -/
def signCallFromMnemonic (mnemonic : Text) (call : Value) (params : CallParams)
    (opts : MnemonicOptions) : Action Host Thrown (List UInt8) := do
  let scheme := opts.scheme <|> params.scheme
  let call ← Action.ofExcept (toBytes call "call")
  let object ← encodeContext params scheme
  let (account, change, addressIndex) := indices opts scheme
  Wasm.signCallFromMnemonic crates mnemonic.toScalars call object account change addressIndex
    (opts.passphrase.map Text.toScalars)

end Exports

end QuantusWasm.Js
