import QuantusWasm.Js.Index
import QuantusWasm.Reference

/-!
# Recipients

A recipient is given as prefixed hexadecimal digits or as an address.  The
parser reads the digits and the addresses of this network as it should, but it
drops the network prefix it has read, so that addresses of other networks are
recipients as well.
-/

namespace QuantusWasm

open Ecma Ext

/-- The texts that name a recipient: 64 prefixed digits, or an address under
the network's own prefix. -/
def NamesRecipient (IsAddress : AddressRelation) (text : List Char) : Prop :=
  (∃ digits, text = '0' :: 'x' :: digits ∧ digits.length = 64 ∧ Hex.IsDigits digits) ∨
    ∃ account, IsAddress text account ss58Prefix

/-- The account that such a text names. -/
def RecipientOf (IsAddress : AddressRelation) (text : List Char) (account : AccountId32) : Prop :=
  (∃ digits, text = '0' :: 'x' :: digits ∧ Hex.decode digits = some account.toList) ∨
    IsAddress text account ss58Prefix

/-- An address under another prefix that `sp_core` accepts. -/
def IsForeignAddress (IsAddress : AddressRelation) (text : List Char) : Prop :=
  ∃ account network, IsAddress text account network ∧ network ≠ ss58Prefix ∧
    isReserved network = false

/-- The parser accepts a string as a recipient only, and rejects the addresses
of other networks. -/
structure ParsesRecipient (crates : Crates) (IsAddress : AddressRelation) (text : List Char) :
    Prop where
  succeeds_iff : (∃ account, Wasm.parseAccountId crates text = .ok account) ↔
    NamesRecipient IsAddress (Wasm.trim text)
  returns : ∀ account, Wasm.parseAccountId crates text = .ok account →
    RecipientOf IsAddress (Wasm.trim text) account
  rejects : ∀ account network, IsAddress (Wasm.trim text) account network →
    network ≠ ss58Prefix → ∀ found, Wasm.parseAccountId crates text ≠ .ok found

section Law

variable {crates : Crates} {IsAddress : AddressRelation}

/-- An address does not begin like prefixed digits. -/
theorem Ss58Law.stripHexPrefix_eq_none (law : Ss58Law crates IsAddress) {text : List Char}
    {account : AccountId32} {network : UInt16} (address : IsAddress text account network) :
    Wasm.stripHexPrefix text = none := by
  cases stripped : Wasm.stripHexPrefix text with
  | none => rfl
  | some digits =>
      have text_eq := Wasm.stripHexPrefix_eq_some_iff.mp stripped
      have mem : '0' ∈ base58Alphabet := law.alphabet address '0' (by simp [text_eq])
      exact absurd mem (by decide)

theorem Ss58Law.trim_eq_self (law : Ss58Law crates IsAddress) {text : List Char}
    {account : AccountId32} {network : UInt16} (address : IsAddress text account network) :
    Wasm.trim text = text := by
  have plain : base58Alphabet.all (fun char => !Wasm.isWhitespace char) = true := by decide
  apply Wasm.trim_eq_self
  intro char mem
  have known := List.all_eq_true.mp plain char (law.alphabet address char mem)
  simpa using known

/-- An address survives the way through JavaScript. -/
theorem Ss58Law.toScalars_ofChars (law : Ss58Law crates IsAddress) {text : List Char}
    {account : AccountId32} {network : UInt16} (address : IsAddress text account network) :
    (Text.ofChars text).toScalars = text := by
  have plain : base58Alphabet.all (fun char => decide (char.toNat < 128)) = true := by decide
  apply Text.toScalars_ofChars
  intro char mem
  exact of_decide_eq_true (List.all_eq_true.mp plain char (law.alphabet address char mem))

/-- A string is accepted as digits or as an address of any network that is
not reserved. -/
theorem Ss58Law.parseAccountId_eq_ok_iff (law : Ss58Law crates IsAddress) {text : List Char}
    {account : AccountId32} :
    Wasm.parseAccountId crates text = .ok account ↔
      (∃ digits, Wasm.trim text = '0' :: 'x' :: digits ∧
        Hex.decode digits = some account.toList) ∨
      ∃ network, IsAddress (Wasm.trim text) account network ∧ isReserved network = false := by
  rw [Wasm.parseAccountId_eq_ok_iff]
  simp only [law.read]
  apply or_congr Iff.rfl
  constructor
  · exact And.right
  · rintro ⟨network, address, allowed⟩
    exact ⟨law.stripHexPrefix_eq_none address, network, address, allowed⟩

/-- The written address of an account is read back. -/
theorem Ss58Law.parseAccountId_address (law : Ss58Law crates IsAddress) (account : AccountId32) :
    Wasm.parseAccountId crates (crates.toSs58checkWithVersion account ss58Prefix) =
      .ok account := by
  have address := law.written account ss58Prefix (by decide)
  rw [law.parseAccountId_eq_ok_iff, law.trim_eq_self address]
  exact Or.inr ⟨ss58Prefix, address, by decide⟩

/-- Digits that decode to an account number 64. -/
theorem digits_of_decode {digits : List Char} {account : AccountId32}
    (decoded : Hex.decode digits = some account.toList) :
    digits.length = 64 ∧ Hex.IsDigits digits := by
  obtain ⟨isDigits, length_eq⟩ := Hex.isDigits_of_decode decoded
  rw [account.toList_length] at length_eq
  exact ⟨length_eq, isDigits⟩

/-- And 64 digits decode to an account. -/
theorem exists_decode_of_digits {digits : List Char} (length_eq : digits.length = 64)
    (isDigits : Hex.IsDigits digits) :
    ∃ account : AccountId32, Hex.decode digits = some account.toList := by
  have pairs : digits.length = 2 * 32 := length_eq
  obtain ⟨bytes, decoded, bytes_length⟩ := Hex.exists_decode_of_isDigits isDigits pairs
  exact ⟨⟨bytes, bytes_length⟩, decoded⟩

/-- The parser is right about a string unless the string is an address of
another network. -/
theorem Ss58Law.parsesRecipient_iff (law : Ss58Law crates IsAddress) (text : List Char) :
    ParsesRecipient crates IsAddress text ↔ ¬IsForeignAddress IsAddress (Wasm.trim text) := by
  constructor
  · rintro parses ⟨account, network, address, foreign, allowed⟩
    apply parses.rejects account network address foreign account
    exact law.parseAccountId_eq_ok_iff.mpr (Or.inr ⟨network, address, allowed⟩)
  · intro notForeign
    have own : ∀ {account network}, IsAddress (Wasm.trim text) account network →
        isReserved network = false → network = ss58Prefix := by
      intro account network address allowed
      by_contra foreign
      exact notForeign ⟨account, network, address, foreign, allowed⟩
    have returns : ∀ account, Wasm.parseAccountId crates text = .ok account →
        RecipientOf IsAddress (Wasm.trim text) account := by
      intro account parsed
      rcases law.parseAccountId_eq_ok_iff.mp parsed with digits | ⟨network, address, allowed⟩
      · exact Or.inl digits
      · exact Or.inr (own address allowed ▸ address)
    refine ⟨⟨?_, ?_⟩, returns, ?_⟩
    · rintro ⟨account, parsed⟩
      rcases returns account parsed with ⟨digits, text_eq, decoded⟩ | address
      · exact Or.inl ⟨digits, text_eq, digits_of_decode decoded⟩
      · exact Or.inr ⟨account, address⟩
    · rintro (⟨digits, text_eq, length_eq, isDigits⟩ | ⟨account, address⟩)
      · obtain ⟨account, decoded⟩ := exists_decode_of_digits length_eq isDigits
        exact ⟨account, law.parseAccountId_eq_ok_iff.mpr (Or.inl ⟨digits, text_eq, decoded⟩)⟩
      · exact ⟨account, law.parseAccountId_eq_ok_iff.mpr
          (Or.inr ⟨ss58Prefix, address, by decide⟩)⟩
    · intro account network address foreign found parsed
      rcases law.parseAccountId_eq_ok_iff.mp parsed with ⟨digits, text_eq, _⟩ |
        ⟨other, otherAddress, allowed⟩
      · have stripped := law.stripHexPrefix_eq_none address
        rw [Wasm.stripHexPrefix_eq_some_iff.mpr text_eq] at stripped
        contradiction
      · rw [(law.unique address otherAddress).2] at foreign
        exact foreign (own otherAddress allowed)

end Law

/-- Over a string the parser does what it should exactly when the string,
trimmed, is not an address of another network; an account's own address and
its raw bytes always lead back to the account. -/
theorem parseAccountId_accepts_recipients {crates : Crates} {IsAddress : AddressRelation}
    (law : Ss58Law crates IsAddress) :
    (∀ text, ParsesRecipient crates IsAddress text ↔
      ¬IsForeignAddress IsAddress (Wasm.trim text)) ∧
    ∀ keypair : Keypair crates,
      Wasm.parseAccountId crates (deriveAccountFromKeypair keypair).address =
        .ok (deriveAccountFromKeypair keypair).accountId ∧
      ∃ recipient,
        Js.toRecipient (.uint8Array (deriveAccountFromKeypair keypair).accountId.toList) =
          .ok recipient ∧
        Wasm.parseAccountId crates recipient.toScalars =
          .ok (deriveAccountFromKeypair keypair).accountId := by
  refine ⟨law.parsesRecipient_iff, fun keypair => ⟨law.parseAccountId_address _, _, rfl, ?_⟩⟩
  have shown := Text.toScalars_ofChars
    (Wasm.isAscii_hexText (deriveAccountFromKeypair keypair).accountId.toList)
  exact (congrArg (Wasm.parseAccountId crates) shown).trans (Wasm.parseAccountId_hexText crates _)

namespace Reference

theorem isForeignAddress_foreignAddress :
    IsForeignAddress IsAddress (Wasm.trim foreignAddress) := by
  have address : IsAddress foreignAddress foreignAccount 42 := if_pos rfl
  rw [ss58Law.trim_eq_self address]
  exact ⟨foreignAccount, 42, address, by decide, by decide⟩

/-- An address of network 42 is accepted as a recipient. -/
theorem not_parsesRecipient_foreignAddress :
    Wasm.parseAccountId crates foreignAddress = .ok foreignAccount ∧
      IsAddress foreignAddress foreignAccount 42 ∧
      ¬∀ text, ParsesRecipient crates IsAddress text := by
  have address : IsAddress foreignAddress foreignAccount 42 := if_pos rfl
  have parsed : Wasm.parseAccountId crates foreignAddress = .ok foreignAccount := by
    rw [ss58Law.parseAccountId_eq_ok_iff, ss58Law.trim_eq_self address]
    exact Or.inr ⟨42, address, by decide⟩
  refine ⟨parsed, address, fun parses => ?_⟩
  apply (parses foreignAddress).rejects foreignAccount 42 _ (by decide) foreignAccount parsed
  rw [ss58Law.trim_eq_self address]
  exact address

/-- Wrong about a foreign address, right about the same account in digits. -/
theorem parseAccountId_accepts_recipients_reference :
    ¬ParsesRecipient crates IsAddress foreignAddress ∧
      ParsesRecipient crates IsAddress (Wasm.hexText foreignAccount.toList) := by
  have iff := (parseAccountId_accepts_recipients ss58Law).1
  constructor
  · rw [iff]
    exact not_not_intro isForeignAddress_foreignAddress
  · rw [iff, Wasm.trim_hexText]
    rintro ⟨account, network, address, _⟩
    have stripped := ss58Law.stripHexPrefix_eq_none address
    contradiction

end Reference

end QuantusWasm
