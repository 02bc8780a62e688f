import QuantusWasm.Js.Sample
import QuantusWasm.Js.Serve

/-!
# The key that signs is the key that is shown

Account derivation and signing choose scheme and path separately, once in
TypeScript and once in Rust.  Both choices depend on the same scheme name, so an
extrinsic carries the account that derivation reports for the same options, and
the default address index tells the two schemes apart.
-/

namespace QuantusWasm

namespace Js

open Ecma Effect Ext

variable {crates : Crates}

/-! ## Derivation and signing agree -/

/-- The extrinsic is signed by the account. -/
def SignedBy (extrinsic : Runtime.SignedExtrinsic) (account : QuantusAccount) : Prop :=
  extrinsic.signer.toList = account.accountId ∧ schemeText extrinsic.scheme = account.scheme ∧
    extrinsic.publicKey = account.publicKey

/-- The account material of a key as JavaScript receives it. -/
def accountOf (keypair : Keypair crates) : QuantusAccount :=
  materialize (Wasm.accountFromKeys (deriveAccountFromKeypair keypair))

/-- A signing call returns an extrinsic signed by the account of its key. -/
theorem SigningCall.Execution.exists_signedBy {call : SigningCall} {before after : Host}
    {output : List UInt8} (execution : Execution crates call before output after) :
    ∃ extrinsic, Runtime.ReadsAs output extrinsic ∧
      SignedBy extrinsic (accountOf execution.keypair) := by
  obtain ⟨_, _, _, _, _, _, reads, _⟩ := Runtime.exists_readsAs_of_signCall execution.signed
  exact ⟨_, reads, rfl, rfl, rfl⟩

/-- Derivation from a seed reports the account of the key a signing call with
the same scheme name uses. -/
theorem account_eq_ok {seed : Value} {params : CallParams} {scheme : Scheme}
    {keypair : Keypair crates}
    (parsed : Wasm.parseScheme (params.scheme.map Text.toScalars) = .ok scheme)
    (keyed : (KeySource.seed seed).keypair crates params scheme = .ok keypair) :
    account crates seed ⟨params.scheme⟩ = .ok (accountOf keypair) := by
  rcases bind_eq_ok_iff.mp keyed with ⟨bytes, seedGiven, generated⟩
  have generated := mapError_eq_ok_iff.mp generated
  simp only [account, bind_eq_ok_iff, Wasm.account, mapError_eq_ok_iff, deriveAccount]
  exact ⟨bytes, seedGiven, _, ⟨scheme, parsed, _, ⟨keypair, generated, rfl⟩, rfl⟩, rfl⟩

/-- Derivation from a mnemonic reports the account of the key at the path of
the options. -/
theorem run_accountFromMnemonic {mnemonic : Text} {opts : MnemonicOptions} {scheme : Scheme}
    {keypair : Keypair crates}
    (parsed : Wasm.parseScheme (opts.scheme.map Text.toScalars) = .ok scheme)
    (keyed : ((crates.deriveKeyFromMnemonic scheme mnemonic.toScalars
      (opts.passphrase.map Text.toScalars)
      (Wasm.quantusPath (indices opts opts.scheme).1 (indices opts opts.scheme).2.1
        (indices opts opts.scheme).2.2)).mapError
          fun reason => Thrown.jsError ("mnemonic derivation failed: " ++ reason)).map
            (fun key => (⟨scheme, key⟩ : Keypair crates)) = .ok keypair) (host : Host) :
    (accountFromMnemonic crates mnemonic opts).run host =
      (.ok (accountOf keypair), host.derived ⟨scheme, mnemonic.toScalars,
        opts.passphrase.map Text.toScalars, Wasm.quantusPath (indices opts opts.scheme).1
          (indices opts opts.scheme).2.1 (indices opts opts.scheme).2.2⟩) := by
  refine Action.run_bind_eq_ok_iff.mpr ⟨_, _, ?_, rfl⟩
  refine Action.run_ofExcept_bind_eq_ok_iff.mpr ⟨scheme, parsed, ?_⟩
  exact Action.run_bind_eq_ok_iff.mpr
    ⟨keypair, _, Wasm.run_keypairFromMnemonic_eq_ok_iff.mpr ⟨keyed, rfl⟩, rfl⟩

/-! ## Default paths -/

/-- The state only gains derivations of one kind. -/
def DerivesOnly (kind : DerivationRecord → Prop) (before after : Host) : Prop :=
  ∃ added, after.derivations = before.derivations ++ added ∧ ∀ record ∈ added, kind record

instance (kind : DerivationRecord → Prop) : Std.Refl (DerivesOnly kind) :=
  ⟨fun _ => ⟨[], (List.append_nil _).symm, fun _ mem => absurd mem List.not_mem_nil⟩⟩

instance (kind : DerivationRecord → Prop) : IsTrans Host (DerivesOnly kind) := by
  constructor
  rintro first second third ⟨early, second_eq, earlyKind⟩ ⟨late, third_eq, lateKind⟩
  refine ⟨early ++ late, ?_, ?_⟩
  · rw [third_eq, second_eq, List.append_assoc]
  · intro record mem
    rcases List.mem_append.mp mem with early_mem | late_mem
    · exact earlyKind record early_mem
    · exact lateKind record late_mem

theorem derivesOnly_of_eq {kind : DerivationRecord → Prop} {before after : Host}
    (same : after.derivations = before.derivations) : DerivesOnly kind before after :=
  ⟨[], by rw [same, List.append_nil], fun _ mem => absurd mem List.not_mem_nil⟩

theorem derivesOnly_derived {kind : DerivationRecord → Prop} {record : DerivationRecord}
    (host : Host) (good : kind record) : DerivesOnly kind host (host.derived record) :=
  ⟨[record], rfl, fun _ mem => List.mem_singleton.mp mem ▸ good⟩

/-- The address index that stands for a scheme. -/
def schemeIndex : Scheme → UInt32
  | .mlDsa87 => 0
  | .mlDsa65 => 1

theorem schemeIndex_eq_iff (scheme : Scheme) :
    (schemeIndex scheme = 1 ↔ scheme = .mlDsa65) ∧
      (schemeIndex scheme = 0 ↔ scheme = .mlDsa87) := by
  cases scheme <;> decide

/-- A derivation at the account and change index of the options and at an
address index that tells its scheme. -/
def DefaultIndexed (opts : MnemonicOptions) (record : DerivationRecord) : Prop :=
  ∃ addressIndex, record.path = Wasm.quantusPath (opts.account.getD (Number.ofInt 0)).toUint32
      (opts.change.getD (Number.ofInt 0)).toUint32 addressIndex ∧
    (addressIndex = 1 ↔ record.scheme = .mlDsa65) ∧ (addressIndex = 0 ↔ record.scheme = .mlDsa87)

/-- Default derivations of different schemes use different paths, whatever the
other indices are. -/
theorem path_ne_of_scheme_ne {opts others : MnemonicOptions} {first second : DerivationRecord}
    (firstDefault : DefaultIndexed opts first) (secondDefault : DefaultIndexed others second)
    (schemes_ne : first.scheme ≠ second.scheme) : first.path ≠ second.path := by
  rcases firstDefault with ⟨index, first_eq, is65, is87⟩
  rcases secondDefault with ⟨otherIndex, second_eq, otherIs65, otherIs87⟩
  intro paths_eq
  rw [first_eq, second_eq] at paths_eq
  obtain ⟨-, -, rfl⟩ := Wasm.quantusPath_injective paths_eq
  apply schemes_ne
  cases scheme : first.scheme with
  | mlDsa87 => exact (otherIs87.mp (is87.mpr scheme)).symm
  | mlDsa65 => exact (otherIs65.mp (is65.mpr scheme)).symm

/-- The index TypeScript defaults to for a scheme's own name. -/
theorem defaultAddressIndex_schemeText (scheme : Scheme) :
    defaultAddressIndex (some (schemeText scheme)) = Number.ofInt (schemeIndex scheme).toNat := by
  cases scheme <;> rfl

theorem toUint32_ofInt_schemeIndex (scheme : Scheme) :
    (Number.ofInt (schemeIndex scheme).toNat).toUint32 = schemeIndex scheme := by
  apply UInt32.toNat_inj.mp
  have small := (schemeIndex scheme).toNat_lt
  have safe : (schemeIndex scheme).toNat < 2 ^ 53 := lt_trans small (by decide)
  exact Number.toUint32_of_integer? (Number.integer?_ofInt_natCast safe) small

/-- The name that TypeScript compares is the one Rust parses. -/
theorem toUint32_defaultAddressIndex {name : Option Text} {scheme : Scheme}
    (parsed : Wasm.parseScheme (name.map Text.toScalars) = .ok scheme) :
    (defaultAddressIndex name).toUint32 = schemeIndex scheme := by
  cases name with
  | none =>
      cases parsed
      exact toUint32_ofInt_schemeIndex .mlDsa87
  | some text =>
      have found : Scheme.parse text.toScalars = some scheme := by
        simp only [Option.map_some, Wasm.parseScheme] at parsed
        split at parsed
        · rename_i known
          rw [known, Except.ok.inj parsed]
        · contradiction
      have ascii : Text.IsAscii scheme.name := by cases scheme <;> decide
      have text_eq : text = schemeText scheme :=
        (Text.toScalars_eq_iff ascii).mp (Scheme.parse_eq_some_iff.mp found)
      rw [text_eq, defaultAddressIndex_schemeText, toUint32_ofInt_schemeIndex]

/-- Signing with a key derives nothing. -/
theorem derivations_signCallWithKeypair (keypair : Keypair crates) (call : List UInt8)
    (ctx : SignContext) (host : Host) :
    ((signCallWithKeypair keypair call ctx).run host).2.derivations = host.derivations := by
  rcases ran : (signCallWithKeypair keypair call ctx).run host with ⟨result, after⟩
  cases (Request.signCallWithKeypair keypair call ctx).served_of_run ran <;> rfl

theorem signCallWithKeypair_steps (kind : DerivationRecord → Prop) (keypair : Keypair crates)
    (call : List UInt8) (ctx : SignContext) :
    (signCallWithKeypair keypair call ctx).Steps (DerivesOnly kind) :=
  fun before => derivesOnly_of_eq (derivations_signCallWithKeypair keypair call ctx before)

/-- Nor does encoding a context. -/
theorem derivations_noted (period : Value) (host : Host) :
    (noted period host).derivations = host.derivations := by
  unfold noted
  split_ifs <;> rfl

theorem derivesOnly_noted (kind : DerivationRecord → Prop) (period : Value) (host : Host) :
    DerivesOnly kind host (noted period host) :=
  derivesOnly_of_eq (derivations_noted period host)

/-- Without an address index, the key is derived at the index of its scheme. -/
theorem defaultIndexed_of_absent {opts : MnemonicOptions} {name : Option Text} {scheme : Scheme}
    (absent : opts.addressIndex = none)
    (parsed : Wasm.parseScheme (name.map Text.toScalars) = .ok scheme) (mnemonic : List Char)
    (passphrase : Option (List Char)) :
    DefaultIndexed opts ⟨scheme, mnemonic, passphrase, Wasm.quantusPath (indices opts name).1
      (indices opts name).2.1 (indices opts name).2.2⟩ := by
  refine ⟨schemeIndex scheme, ?_, schemeIndex_eq_iff scheme⟩
  rw [indices, absent, Option.getD_none, toUint32_defaultAddressIndex parsed]

theorem accountFromMnemonic_steps {mnemonic : Text} {opts : MnemonicOptions}
    (absent : opts.addressIndex = none) :
    (accountFromMnemonic crates mnemonic opts).Steps (DerivesOnly (DefaultIndexed opts)) := by
  refine Action.Steps.bind ?_ fun _ => Action.Steps.pure _
  refine Action.Steps.ofExcept_bind fun scheme parsed => ?_
  refine Action.Steps.bind ?_ fun _ => Action.Steps.pure _
  apply keypairFromMnemonic_steps
  exact fun host => derivesOnly_derived host (defaultIndexed_of_absent absent parsed _ _)

theorem serve_steps {mnemonic : Text} {content : Content} {opts : MnemonicOptions}
    (absent : opts.addressIndex = none) :
    (SigningCall.serve crates ⟨.mnemonic mnemonic opts, content⟩).Steps
      (DerivesOnly (DefaultIndexed opts)) := by
  apply SigningCall.serve_steps
  · exact derivesOnly_noted _ _
  · exact fun host scheme parsed =>
      derivesOnly_derived host (defaultIndexed_of_absent absent parsed _ _)
  · exact fun keypair bytes ctx _ => signCallWithKeypair_steps _ keypair bytes ctx

/-- Signing uses the key that account derivation shows for the same scheme
name, and default derivations keep the schemes on different paths. -/
theorem signer_is_account (crates : Crates) :
    (∀ seed content before after output,
      (SigningCall.serve crates ⟨.seed seed, content⟩).run before = (.ok output, after) →
      ∃ extrinsic shown, Runtime.ReadsAs output extrinsic ∧
        account crates seed ⟨content.params.scheme⟩ = .ok shown ∧ SignedBy extrinsic shown) ∧
    (∀ mnemonic opts content before after output,
      (SigningCall.serve crates ⟨.mnemonic mnemonic opts, content⟩).run before =
        (.ok output, after) →
      ∃ extrinsic shown, Runtime.ReadsAs output extrinsic ∧
        (∀ host, ((accountFromMnemonic crates mnemonic
          { opts with scheme := opts.scheme <|> content.params.scheme }).run host).1 = .ok shown) ∧
        SignedBy extrinsic shown) ∧
    (∀ mnemonic opts content, opts.addressIndex = none →
      (accountFromMnemonic crates mnemonic opts).Steps (DerivesOnly (DefaultIndexed opts)) ∧
      (SigningCall.serve crates ⟨.mnemonic mnemonic opts, content⟩).Steps
        (DerivesOnly (DefaultIndexed opts))) ∧
    (∀ opts others first second, DefaultIndexed opts first → DefaultIndexed others second →
      first.scheme ≠ second.scheme → first.path ≠ second.path) := by
  refine ⟨?_, ?_, ?_, ?_⟩
  · intro seed content before after output ran
    obtain ⟨execution⟩ := SigningCall.run_serve_eq_ok_iff.mp ran
    obtain ⟨extrinsic, reads, signed⟩ := execution.exists_signedBy
    exact ⟨extrinsic, _, reads, account_eq_ok execution.parseScheme_eq execution.keyed, signed⟩
  · intro mnemonic opts content before after output ran
    obtain ⟨execution⟩ := SigningCall.run_serve_eq_ok_iff.mp ran
    obtain ⟨extrinsic, reads, signed⟩ := execution.exists_signedBy
    refine ⟨extrinsic, _, reads, fun host => ?_, signed⟩
    exact congrArg Prod.fst (@run_accountFromMnemonic crates mnemonic
      { opts with scheme := opts.scheme <|> content.params.scheme } execution.scheme
      execution.keypair execution.parseScheme_eq execution.keyed host)
  · intro mnemonic opts content absent
    exact ⟨accountFromMnemonic_steps absent, serve_steps absent⟩
  · intro opts others first second firstDefault secondDefault schemes_ne
    exact path_ne_of_scheme_ne firstDefault secondDefault schemes_ne

end Js

namespace Reference

open Ecma Effect Ext Js

/-- Options that name the scheme and nothing else. -/
def schemeOptions (scheme : Scheme) : MnemonicOptions :=
  ⟨some (schemeText scheme), none, none, none, none⟩

/-- A mnemonic call with the scheme that is not the default. -/
theorem signer_is_account_mlDsa65 :
    ∃ output after extrinsic shown,
      (SigningCall.serve crates ⟨.mnemonic [] (schemeOptions .mlDsa65), immortalCall⟩).run
        Host.initial = (.ok output, after) ∧
      Runtime.ReadsAs output extrinsic ∧
      ((accountFromMnemonic crates [] (schemeOptions .mlDsa65)).run Host.initial).1 = .ok shown ∧
      SignedBy extrinsic shown := by
  obtain ⟨output, after, ran⟩ := @exists_run_immortalCall
    (.mnemonic [] (schemeOptions .mlDsa65)) .mlDsa65 _ Host.initial rfl rfl (by decide)
  obtain ⟨extrinsic, shown, reads, derived, signed⟩ :=
    (signer_is_account crates).2.1 _ _ _ _ _ _ ran
  exact ⟨output, after, extrinsic, shown, ran, reads, derived Host.initial, signed⟩

end Reference

end QuantusWasm
