import QuantusWasm.Wasm.Parse

/-!
# Entry points of the wasm module

The functions of `src/lib.rs` and `src/mnemonic.rs` that JavaScript calls.  A
parameter object arrives as the record of its fields; what serde makes of a
number depends on the outside decoder, and a string arrives as its Unicode
scalar values.
-/

namespace QuantusWasm.Wasm

open Ecma Effect Ext

/-- The context object as JavaScript passes it. -/
structure ContextObject where
  scheme : Option Text
  nonce : Number
  tip : Text
  period : Number
  blockNumber : Number
  genesisHash : Text
  blockHash : Option Text
  specVersion : Value
  transactionVersion : Value

/-- The transfer object: its own fields and, flattened, those of a context. -/
structure TransferObject where
  recipient : Text
  amount : Text
  assetId : Value
  keepAlive : Bool
  ctx : ContextObject

/-- A context as serde delivers it. -/
structure JsSignContext where
  scheme : Option (List Char)
  nonce : UInt64
  tip : Option (List Char)
  period : UInt64
  blockNumber : UInt64
  genesisHash : List Char
  blockHash : Option (List Char)
  specVersion : UInt32
  transactionVersion : UInt32

/-- A transfer as serde delivers it. -/
structure JsTransferParams where
  recipient : List Char
  amount : List Char
  assetId : Option UInt32
  keepAlive : Bool
  ctx : JsSignContext

/-- An exported account. -/
structure Account where
  scheme : Scheme
  publicKey : List UInt8
  secretKey : List UInt8
  accountId : List UInt8
  address : List Char
  deriving DecidableEq

section Deserialize

variable (crates : Crates)

/-- What a failure of serde becomes. -/
def invalidParams (reason : String) : Thrown :=
  .jsError ("invalid params: " ++ reason)

/-- Hold one value in the buffer; a number always fits. -/
def bufferField : Value → Except Thrown Unit
  | .number _ => .ok ()
  | value => (crates.bufferValue value).mapError invalidParams

/-- The fields of a flattened structure are all held in the buffer before any of
them is read.  Only the two versions can be other than numbers and text. -/
def collectFields (route : Route) (object : ContextObject) : Except Thrown Unit :=
  match route with
  | .direct => .ok ()
  | .flattened => do
      bufferField crates object.specVersion
      bufferField crates object.transactionVersion

/-- What serde makes of a context object, field by field. -/
def deserializeContext (route : Route) (object : ContextObject) :
    Except Thrown JsSignContext := do
  collectFields crates route object
  let nonce ← (crates.deserializeU64 route object.nonce).mapError invalidParams
  let period ← (crates.deserializeU64 route object.period).mapError invalidParams
  let blockNumber ← (crates.deserializeU64 route object.blockNumber).mapError invalidParams
  let specVersion ← (crates.deserializeU32 route object.specVersion).mapError invalidParams
  let transactionVersion ←
    (crates.deserializeU32 route object.transactionVersion).mapError invalidParams
  pure
    { scheme := object.scheme.map Text.toScalars
      nonce := nonce
      tip := some (Text.toScalars object.tip)
      period := period
      blockNumber := blockNumber
      genesisHash := Text.toScalars object.genesisHash
      blockHash := object.blockHash.map Text.toScalars
      specVersion := specVersion
      transactionVersion := transactionVersion }

/-- An optional `u32` field: absent when undefined or null. -/
def deserializeAssetId : Value → Except Thrown (Option UInt32)
  | .undefined => .ok none
  | .null => .ok none
  | value => ((crates.deserializeU32 .direct value).mapError invalidParams).map some

/-- The context of a transfer object is flattened into it. -/
def deserializeTransfer (object : TransferObject) : Except Thrown JsTransferParams := do
  let assetId ← deserializeAssetId crates object.assetId
  let ctx ← deserializeContext crates .flattened object.ctx
  pure
    { recipient := Text.toScalars object.recipient
      amount := Text.toScalars object.amount
      assetId := assetId
      keepAlive := object.keepAlive
      ctx := ctx }

end Deserialize

/-- Parse an optional string field, with a default for an absent one. -/
def parseOptional {α : Type} (absent : α) (parse : List Char → Except Thrown α) :
    Option (List Char) → Except Thrown α
  | some text => parse text
  | none => .ok absent

/-- Parse the texts of a context. -/
def buildSignContext (c : JsSignContext) : Except Thrown (SignContext × Scheme) := do
  let scheme ← parseScheme c.scheme
  let tip ← parseOptional 0 (fun text => parseU128 text "tip") c.tip
  let genesisHash ← parseH256 c.genesisHash "genesisHash"
  let blockHash ← parseOptional (List.Vector.replicate 32 0)
    (fun text => parseH256 text "blockHash") c.blockHash
  pure
    ({ nonce := c.nonce
       tip := tip
       period := c.period
       blockNumber := c.blockNumber
       genesisHash := genesisHash
       blockHash := blockHash
       specVersion := c.specVersion
       transactionVersion := c.transactionVersion }, scheme)

section Entry

variable (crates : Crates)

/-- Deserialize and parse a context. -/
def buildSignContextFromValue (object : ContextObject) :
    Except Thrown (SignContext × Scheme) := do
  let c ← deserializeContext crates .direct object
  buildSignContext c

/-- Deserialize and parse a transfer. -/
def buildTransferParams (object : TransferObject) :
    Except Thrown (TransferParams × Scheme) := do
  let p ← deserializeTransfer crates object
  let (ctx, scheme) ← buildSignContext p.ctx
  let recipient ← parseAccountId crates p.recipient
  let amount ← parseU128 p.amount "amount"
  pure
    ({ recipient := recipient
       amount := amount
       assetId := p.assetId
       keepAlive := p.keepAlive
       ctx := ctx }, scheme)

/-- The JavaScript error of a failure. -/
def toJsError (failure : Error) : Thrown :=
  .jsError failure.message

/-- The account that is exported. -/
def accountFromKeys (keys : AccountKeys) : Account where
  scheme := keys.scheme
  publicKey := keys.publicKey
  secretKey := keys.secretKey
  accountId := keys.accountId.toList
  address := keys.address

/-- Derive the account of a seed. -/
def account (seed : List UInt8) (scheme : Option (List Char)) : Except Thrown Account := do
  let scheme ← parseScheme scheme
  let keys ← (deriveAccount crates seed scheme).mapError toJsError
  pure (accountFromKeys keys)

/-- Sign a transfer with the key of a seed. -/
def signTransfer (seed : List UInt8) (params : TransferObject) :
    Action Host Thrown (List UInt8) := do
  let (params, scheme) ← Action.ofExcept (buildTransferParams crates params)
  (Ext.signTransfer crates seed scheme params).mapError toJsError

/-- Sign an encoded call with the key of a seed. -/
def signCall (seed call : List UInt8) (context : ContextObject) :
    Action Host Thrown (List UInt8) := do
  let (ctx, scheme) ← Action.ofExcept (buildSignContextFromValue crates context)
  (Ext.signCall crates seed scheme call ctx).mapError toJsError

/-! ## Mnemonics -/

/-- Purpose and coin type. -/
def pathRoot : List Char :=
  "m/44'/189189'/".toList

/-- Derivation path, all of it hardened. -/
def quantusPath (account change addressIndex : UInt32) : List Char :=
  pathRoot ++ Nat.toDigits 10 account.toNat ++ ['\'', '/'] ++
    Nat.toDigits 10 change.toNat ++ ['\'', '/'] ++ Nat.toDigits 10 addressIndex.toNat ++ ['\'']

/-- Derive the keypair at a path of a mnemonic. -/
def keypairFromMnemonic (mnemonic : List Char) (passphrase : Option (List Char))
    (account change addressIndex : UInt32) (scheme : Scheme) :
    Action Host Thrown (Keypair crates) := do
  let path := quantusPath account change addressIndex
  Action.update fun host => host.derived ⟨scheme, mnemonic, passphrase, path⟩
  let key ← Action.ofExcept ((crates.deriveKeyFromMnemonic scheme mnemonic passphrase path).mapError
    fun reason => .jsError ("mnemonic derivation failed: " ++ reason))
  pure ⟨scheme, key⟩

/-- Derive the account at a path of a mnemonic. -/
def accountFromMnemonic (mnemonic : List Char) (account change addressIndex : UInt32)
    (passphrase scheme : Option (List Char)) : Action Host Thrown Account := do
  let scheme ← Action.ofExcept (parseScheme scheme)
  let keypair ←
    keypairFromMnemonic crates mnemonic passphrase account change addressIndex scheme
  pure (accountFromKeys (deriveAccountFromKeypair keypair))

/-- Sign a transfer with a key of a mnemonic. -/
def signTransferFromMnemonic (mnemonic : List Char) (params : TransferObject)
    (account change addressIndex : UInt32) (passphrase : Option (List Char)) :
    Action Host Thrown (List UInt8) := do
  let (params, scheme) ← Action.ofExcept (buildTransferParams crates params)
  let keypair ←
    keypairFromMnemonic crates mnemonic passphrase account change addressIndex scheme
  (signTransferWithKeypair keypair params).mapError toJsError

/-- Sign an encoded call with a key of a mnemonic. -/
def signCallFromMnemonic (mnemonic : List Char) (call : List UInt8) (context : ContextObject)
    (account change addressIndex : UInt32) (passphrase : Option (List Char)) :
    Action Host Thrown (List UInt8) := do
  let (ctx, scheme) ← Action.ofExcept (buildSignContextFromValue crates context)
  let keypair ←
    keypairFromMnemonic crates mnemonic passphrase account change addressIndex scheme
  (signCallWithKeypair keypair call ctx).mapError toJsError

end Entry

/-! ## When an entry point returns -/

section Inversion

variable {crates : Crates}

theorem buildSignContextFromValue_eq_ok_iff {object : ContextObject}
    {built : SignContext × Scheme} :
    buildSignContextFromValue crates object = .ok built ↔
      ∃ js, deserializeContext crates .direct object = .ok js ∧
        buildSignContext js = .ok built :=
  bind_eq_ok_iff

theorem buildTransferParams_eq_ok_iff {object : TransferObject} {params : TransferParams}
    {scheme : Scheme} :
    buildTransferParams crates object = .ok (params, scheme) ↔
      ∃ assetId js ctx recipient amount,
        deserializeAssetId crates object.assetId = .ok assetId ∧
        deserializeContext crates .flattened object.ctx = .ok js ∧
        buildSignContext js = .ok (ctx, scheme) ∧
        parseAccountId crates object.recipient.toScalars = .ok recipient ∧
        parseU128 object.amount.toScalars "amount" = .ok amount ∧
        params = ⟨recipient, amount, assetId, object.keepAlive, ctx⟩ := by
  unfold buildTransferParams deserializeTransfer
  simp only [bind_eq_ok_iff]
  constructor
  · rintro ⟨_, ⟨assetId, assetGiven, js, delivered, ⟨⟩⟩, ⟨ctx, found⟩, built, recipient,
      recipientParsed, amount, amountParsed, ⟨⟩⟩
    exact ⟨assetId, js, ctx, recipient, amount, assetGiven, delivered, built, recipientParsed,
      amountParsed, rfl⟩
  · rintro ⟨assetId, js, ctx, recipient, amount, assetGiven, delivered, built, recipientParsed,
      amountParsed, rfl⟩
    exact ⟨_, ⟨assetId, assetGiven, js, delivered, rfl⟩, (ctx, scheme), built, recipient,
      recipientParsed, amount, amountParsed, rfl⟩

theorem run_keypairFromMnemonic_eq_ok_iff {mnemonic : List Char}
    {passphrase : Option (List Char)} {account change addressIndex : UInt32} {scheme : Scheme}
    {host after : Host} {keypair : Keypair crates} :
    (keypairFromMnemonic crates mnemonic passphrase account change addressIndex scheme).run host =
        (.ok keypair, after) ↔
      ((crates.deriveKeyFromMnemonic scheme mnemonic passphrase
        (quantusPath account change addressIndex)).mapError
          fun reason => Thrown.jsError ("mnemonic derivation failed: " ++ reason)).map
            (fun key => (⟨scheme, key⟩ : Keypair crates)) = .ok keypair ∧
        after = host.derived
          ⟨scheme, mnemonic, passphrase, quantusPath account change addressIndex⟩ := by
  rw [keypairFromMnemonic, Action.run_bind_of_ok (Action.run_update _ _),
    Action.run_ofExcept_bind_eq_ok_iff]
  simp only [Action.run_pure, Prod.mk.injEq, Except.ok.injEq, map_eq_ok_iff]
  constructor
  · rintro ⟨key, derived, rfl, rfl⟩
    exact ⟨⟨key, derived, rfl⟩, rfl⟩
  · rintro ⟨⟨key, derived, rfl⟩, rfl⟩
    exact ⟨key, derived, rfl, rfl⟩

end Inversion

/-! ## Paths -/

/-- Lists that end at the same kind of separator, absent before it, agree
before and after it. -/
theorem append_cons_inj_of_absent {α : Type} {separator : α}
    {left right leftRest rightRest : List α}
    (leftAbsent : separator ∉ left) (rightAbsent : separator ∉ right)
    (equal : left ++ separator :: leftRest = right ++ separator :: rightRest) :
    left = right ∧ leftRest = rightRest := by
  induction left generalizing right with
  | nil =>
      cases right with
      | nil => exact ⟨rfl, (List.cons.inj equal).2⟩
      | cons first rest =>
          rw [(List.cons.inj equal).1] at rightAbsent
          exact absurd (List.mem_cons_self ..) rightAbsent
  | cons first rest ih =>
      cases right with
      | nil =>
          rw [(List.cons.inj equal).1] at leftAbsent
          exact absurd (List.mem_cons_self ..) leftAbsent
      | cons other others =>
          rcases List.cons.inj equal with ⟨firsts, rests⟩
          obtain ⟨heads, tails⟩ := ih (fun mem => leftAbsent (List.mem_cons_of_mem _ mem))
            (fun mem => rightAbsent (List.mem_cons_of_mem _ mem)) rests
          exact ⟨by rw [firsts, heads], tails⟩

theorem toDigits_injective {left right : Nat}
    (equal : Nat.toDigits 10 left = Nat.toDigits 10 right) :
    left = right := by
  rw [← @Nat.ofDigitChars_ten_toDigits left, equal, Nat.ofDigitChars_ten_toDigits]

theorem quote_not_mem_toDigits (number : Nat) : '\'' ∉ Nat.toDigits 10 number := by
  intro mem
  have digit := Nat.isDigit_of_mem_toDigits (by decide) (by decide) mem
  exact absurd digit (by decide)

/-- Numbers ending at a quote are told apart by their digits. -/
theorem toDigits_quote_inj {left right : Nat} {leftRest rightRest : List Char}
    (equal : Nat.toDigits 10 left ++ '\'' :: leftRest =
      Nat.toDigits 10 right ++ '\'' :: rightRest) :
    left = right ∧ leftRest = rightRest := by
  obtain ⟨digits, rests⟩ := append_cons_inj_of_absent (quote_not_mem_toDigits left)
    (quote_not_mem_toDigits right) equal
  exact ⟨toDigits_injective digits, rests⟩

/-- A path determines its three indices. -/
theorem quantusPath_injective {account change addressIndex account' change' addressIndex' : UInt32}
    (equal : quantusPath account change addressIndex = quantusPath account' change' addressIndex') :
    account = account' ∧ change = change' ∧ addressIndex = addressIndex' := by
  simp only [quantusPath, List.append_assoc, List.append_cancel_left_eq, List.cons_append,
    List.nil_append] at equal
  obtain ⟨accounts, afterAccount⟩ := toDigits_quote_inj equal
  obtain ⟨changes, afterChange⟩ := toDigits_quote_inj (List.cons.inj afterAccount).2
  obtain ⟨addresses, _⟩ := toDigits_quote_inj (List.cons.inj afterChange).2
  exact ⟨UInt32.toNat_inj.mp accounts, UInt32.toNat_inj.mp changes, UInt32.toNat_inj.mp addresses⟩

end QuantusWasm.Wasm
