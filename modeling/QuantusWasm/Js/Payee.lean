import QuantusWasm.Js.Api
import QuantusWasm.Js.Interchange
import QuantusWasm.Js.Recipient

/-!
# Paying an account that was shown

An account that the package shows is passed on as its address, as its bytes or
as their hexadecimal digits.  A transfer to any of these is one and the same,
and it pays the signer of everything that is signed by the account.
-/

namespace QuantusWasm

namespace Js

open Ecma Effect Ext QuantusWasm.Runtime

/-- The forms in which an account is passed on. -/
inductive Names (shown : QuantusAccount) : Value → Prop
  | address : Names shown (.string shown.address)
  | bytes : Names shown (.uint8Array shown.accountId)
  | digits : Names shown (.string (Text.ofChars (Wasm.hexText shown.accountId)))

/-- Both layers read the value as a recipient. -/
def ReadsRecipient (crates : Crates) (value : Value) (account : AccountId32) : Prop :=
  ∃ text, toRecipient value = .ok text ∧ Wasm.parseAccountId crates text.toScalars = .ok account

/-- The same transfer to another recipient. -/
def TransferParams.to (params : TransferParams) (recipient : Value) : TransferParams :=
  { params with recipient := recipient }

section Payee

variable {crates : Crates}

/-! ## Recipients in a transfer -/

/-- A transfer object counts by the account its recipient is read as. -/
theorem buildTransferParams_eq_of_parsed {text otherText : Text}
    (parsed : Wasm.parseAccountId crates text.toScalars =
      Wasm.parseAccountId crates otherText.toScalars) (object : Wasm.TransferObject) :
    Wasm.buildTransferParams crates { object with recipient := text } =
      Wasm.buildTransferParams crates { object with recipient := otherText } := by
  simp only [Wasm.buildTransferParams, Wasm.deserializeTransfer]
  cases Wasm.deserializeAssetId crates object.assetId with
  | error thrown => rfl
  | ok assetId =>
      cases Wasm.deserializeContext crates .flattened object.ctx with
      | error thrown => rfl
      | ok js => simp only [bind, Except.bind, pure, Except.pure, parsed]

/-- The recipient is only filled in. -/
theorem transferObject_to {value : Value} {text : Text} (given : toRecipient value = .ok text)
    (params : TransferParams) :
    transferObject (params.to value) =
      (transferObject (params.to (.string []))).map fun fill ctx =>
        { fill ctx with recipient := text } := by
  simp only [transferObject, TransferParams.to, given]
  cases params.keepAlive
  case boolean keepAlive => cases toDecimal params.amount "amount" <;> rfl
  all_goals rfl

/-- Values that are read as one recipient make one and the same call, with the
same errors. -/
theorem run_serve_to {source : KeySource} {params : TransferParams} {first second : Value}
    {account : AccountId32} (isFirst : ReadsRecipient crates first account)
    (isSecond : ReadsRecipient crates second account) (host : Host) :
    (SigningCall.serve crates ⟨source, .transfer (params.to first)⟩).run host =
      (SigningCall.serve crates ⟨source, .transfer (params.to second)⟩).run host := by
  rcases isFirst with ⟨text, given, parsed⟩
  rcases isSecond with ⟨otherText, otherGiven, otherParsed⟩
  have builds := buildTransferParams_eq_of_parsed (parsed.trans otherParsed.symm)
  rw [SigningCall.run_serve, SigningCall.run_serve]
  simp only [SigningCall.pipeline, Action.run_bind, Action.run_ofExcept, Action.run_update,
    Content.check, transferObject_to given, transferObject_to otherGiven]
  cases source.check with
  | error thrown => rfl
  | ok passed =>
      cases transferObject (params.to (.string [])) with
      | error thrown => rfl
      | ok fill =>
          simp only [Except.map, Content.params, TransferParams.to]
          cases contextObject params.toCallParams
              (source.schemeArgument params.toCallParams) with
          | error thrown => rfl
          | ok object => simp only [CheckedContent.build, builds]

/-! ## Accounts that were shown -/

/-- Every account that is shown is that of some key. -/
theorem exists_accountOf_of_shown {bip39 : MnemonicToSeed} {query : ApiCall} {host later : Host}
    {shown : QuantusAccount}
    (asked : (query.serve crates bip39).run host = (.ok (.account shown), later)) :
    ∃ keypair : Keypair crates, shown = accountOf keypair := by
  cases query with
  | account seed opts =>
      obtain ⟨account, given, result⟩ := Action.run_ofExcept_bind_eq_ok_iff.mp asked
      cases result
      simp only [account, bind_eq_ok_iff, Wasm.account, mapError_eq_ok_iff, deriveAccount] at given
      rcases given with ⟨_, _, _, ⟨_, _, _, ⟨keypair, _, ⟨⟩⟩, ⟨⟩⟩, ⟨⟩⟩
      exact ⟨keypair, rfl⟩
  | accountFromMnemonic mnemonic opts =>
      obtain ⟨account, reached, given, result⟩ := Action.run_bind_eq_ok_iff.mp asked
      cases result
      obtain ⟨handle, _, derived, result⟩ := Action.run_bind_eq_ok_iff.mp given
      cases result
      obtain ⟨_, _, derived⟩ := Action.run_ofExcept_bind_eq_ok_iff.mp derived
      obtain ⟨keypair, _, _, result⟩ := Action.run_bind_eq_ok_iff.mp derived
      cases result
      exact ⟨keypair, rfl⟩
  | mnemonicToSeed mnemonic passphrase =>
      obtain ⟨_, _, result⟩ := Action.run_ofExcept_bind_eq_ok_iff.mp asked
      cases result
  | sign call =>
      obtain ⟨_, _, _, result⟩ := Action.run_bind_eq_ok_iff.mp asked
      cases result

/-- Every form of an account is read as the account. -/
theorem Names.readsRecipient {IsAddress : AddressRelation} (law : Ss58Law crates IsAddress)
    {keypair : Keypair crates} {value : Value} (names : Names (accountOf keypair) value) :
    ReadsRecipient crates value (accountIdFromPublic crates keypair.publicKey) := by
  have written := Wasm.parseAccountId_hexText crates
    (accountIdFromPublic crates keypair.publicKey)
  have digits := Text.toScalars_ofChars
    (Wasm.isAscii_hexText (accountIdFromPublic crates keypair.publicKey).toList)
  cases names with
  | address =>
      refine ⟨_, rfl, ?_⟩
      change Wasm.parseAccountId crates (Text.ofChars (crates.toSs58checkWithVersion
        (accountIdFromPublic crates keypair.publicKey) ss58Prefix)).toScalars = _
      rw [law.toScalars_ofChars (law.written _ _ (by decide)), law.parseAccountId_address]
  | bytes =>
      refine ⟨_, rfl, ?_⟩
      change Wasm.parseAccountId crates (Text.ofChars (Wasm.hexText
        (accountIdFromPublic crates keypair.publicKey).toList)).toScalars = _
      rw [digits, written]
  | digits =>
      refine ⟨_, rfl, ?_⟩
      change Wasm.parseAccountId crates (Text.ofChars (Wasm.hexText
        (accountIdFromPublic crates keypair.publicKey).toList)).toScalars = _
      rw [digits, written]

/-- The bytes of a transfer are those of a call to the recipient that was
read. -/
theorem Content.Encodes.exists_transfer {params : TransferParams} {value : Value}
    {account : AccountId32} {ctx : SignContext} {bytes : List UInt8}
    (isRecipient : ReadsRecipient crates value account)
    (encodes : (Content.transfer (params.to value)).Encodes crates ctx bytes) :
    ∃ transfer : Ext.TransferParams,
      bytes = encodeCall transfer ∧ transfer.recipient = account := by
  rcases isRecipient with ⟨text, given, parsed⟩
  cases encodes with
  | transfer keepAlive_eq recipientGiven recipientParsed amountGiven amountParsed assetGiven =>
      cases given.symm.trans recipientGiven
      exact ⟨_, rfl, Except.ok.inj (recipientParsed.symm.trans parsed)⟩

/-- Whatever account the package shows, a transfer to it is the same in every
form, on every host and with every outcome; and what it returns pays the
account that signs whatever is signed by it. -/
theorem transfer_pays_shown {IsAddress : AddressRelation} (law : Ss58Law crates IsAddress)
    {bip39 : MnemonicToSeed} {query : ApiCall} {host later : Host} {shown : QuantusAccount}
    (asked : (query.serve crates bip39).run host = (.ok (.account shown), later))
    (source : KeySource) (params : TransferParams) :
    (∀ first second, Names shown first → Names shown second → ∀ before,
      (SigningCall.serve crates ⟨source, .transfer (params.to first)⟩).run before =
        (SigningCall.serve crates ⟨source, .transfer (params.to second)⟩).run before) ∧
    ∀ given, Names shown given → ∀ before after output,
      (SigningCall.serve crates ⟨source, .transfer (params.to given)⟩).run before =
        (.ok output, after) →
      ∃ extrinsic transfer, ReadsAs output extrinsic ∧
        transferCodec.decode extrinsic.call = some (transfer, []) ∧
        ∀ spent, SignedBy spent shown → spent.signer = transfer.recipient := by
  obtain ⟨keypair, rfl⟩ := exists_accountOf_of_shown asked
  constructor
  · intro first second isFirst isSecond before
    exact run_serve_to (isFirst.readsRecipient law) (isSecond.readsRecipient law) before
  · intro given names before after output ran
    obtain ⟨execution⟩ := SigningCall.run_serve_eq_ok_iff.mp ran
    obtain ⟨extrinsic, carries⟩ := execution.exists_carries
    obtain ⟨transfer, bytes_eq, recipient_eq⟩ :=
      Content.Encodes.exists_transfer (names.readsRecipient law) execution.content
    refine ⟨extrinsic, transferCall transfer, carries.reads, ?_, ?_⟩
    · rw [carries.call_eq, bytes_eq]
      exact decode_encodeCall transfer
    · intro spent signedBy
      rw [recipient_transferCall, recipient_eq]
      exact Subtype.ext signedBy.1

end Payee

end Js

namespace Reference

open Ecma Effect Ext Js QuantusWasm.Runtime

/-- A transfer of nothing to the account shown for the key's seed, by its
address. -/
def transferToShown : SigningCall where
  source := .seed (.uint8Array (keypair .mlDsa87).key.toList)
  content := .transfer ((transferParams (.string (Text.ofChars ['0'])) .undefined
    (.number (Number.ofInt (0 : Nat))) .undefined).to
      (.string (accountOf (keypair .mlDsa87)).address))

theorem exists_run_transferToShown :
    ∃ output after, (transferToShown.serve crates).run Host.initial = (.ok output, after) := by
  have names : Names (accountOf (keypair .mlDsa87))
      (.string (accountOf (keypair .mlDsa87)).address) := .address
  obtain ⟨text, given, parsed⟩ := names.readsRecipient ss58Law
  have immortal : (contextOf 0 0 0).period = 0 := rfl
  apply @exists_run_serve .undefined _ .undefined (Text.ofChars ['0']) 0 0 0 .mlDsa87
    transferToShown
  · rfl
  · decide
  · decide
  · rfl
  · exact (parse_zero "tip").2
  · exact counter_ofInt (by decide) "period"
  · rfl
  · rfl
  · exact .transfer rfl given parsed (parse_zero "amount").1 (parse_zero "amount").2 rfl
  · exact keypair_seed _ .mlDsa87 (keypair .mlDsa87).key
  · exact resolveEra_immortal immortal
  · decide

theorem transfer_pays_shown_reference :
    ∃ output after extrinsic transfer,
      (transferToShown.serve crates).run Host.initial = (.ok output, after) ∧
      ReadsAs output extrinsic ∧ transferCodec.decode extrinsic.call = some (transfer, []) ∧
      ∀ spent, SignedBy spent (accountOf (keypair .mlDsa87)) →
        spent.signer = transfer.recipient := by
  have shown := @account_eq_ok crates (.uint8Array (keypair .mlDsa87).key.toList)
    transferToShown.content.params .mlDsa87 (keypair .mlDsa87) rfl
    (keypair_seed _ .mlDsa87 (keypair .mlDsa87).key)
  have asked : (ApiCall.serve crates (fun _ _ => .error "")
      (.account (.uint8Array (keypair .mlDsa87).key.toList) ⟨none⟩)).run Host.initial =
        (.ok (.account (accountOf (keypair .mlDsa87))), Host.initial) :=
    Action.run_ofExcept_bind_eq_ok_iff.mpr ⟨_, shown, rfl⟩
  obtain ⟨output, after, ran⟩ := exists_run_transferToShown
  obtain ⟨extrinsic, transfer, reads, decoded, pays⟩ :=
    (transfer_pays_shown ss58Law asked _ _).2 _ .address _ _ _ ran
  exact ⟨output, after, extrinsic, transfer, ran, reads, decoded, pays⟩

end Reference

end QuantusWasm
