import QuantusWasm.Ext.Extrinsic
import QuantusWasm.Codec.Hex
import QuantusWasm.Ss58

/-!
# A reference host

One computable choice of the outside functions, on which the hypotheses made
about them hold together and results about all choices can be evaluated.
Hashes truncate, a signature carries its hedge in front of what it signs, and
the generator counts.  Addresses are written in digits, except for one real
address of another network, which is read as `sp_core` reads it.
-/

namespace QuantusWasm.Reference

open Ext

/-- The first `length` bytes, padded with zeros. -/
def fit (length : Nat) (content : List UInt8) : List.Vector UInt8 length :=
  ⟨(content ++ List.replicate length 0).take length, by simp⟩

theorem toList_fit {length : Nat} {content : List UInt8} (exact : content.length = length) :
    (fit length content).toList = content := by
  change (content ++ List.replicate length 0).take length = content
  rw [← exact, List.take_left]

theorem take_fit_append {length : Nat} (long : 32 ≤ length) {front : List UInt8}
    (front_length : front.length = 32) (content : List UInt8) :
    (fit length (front ++ content)).toList.take 32 = front := by
  change ((front ++ content ++ List.replicate length 0).take length).take 32 = front
  rw [List.take_take, min_eq_left long, List.append_assoc, List.take_left' front_length]

theorem drop_fit_append (length : Nat) {front : List UInt8} (front_length : front.length = 32)
    (content : List UInt8) :
    (fit length (front ++ content)).toList.drop 32 =
      (content ++ List.replicate length 0).take (length - 32) := by
  change ((front ++ content ++ List.replicate length 0).take length).drop 32 = _
  rw [List.drop_take, List.append_assoc, List.drop_left' front_length]

/-- What a signature shows of the key, the context and the message. -/
def transcript (publicKey message context : List UInt8) : List UInt8 :=
  publicKey ++ context ++ message

/-- A stand-in for ML-DSA whose signatures show the hedge and the transcript. -/
def mlDsa (scheme : Scheme) : MlDsa scheme where
  Keypair := Bytes32
  generate seed := seed
  publicKey key := fit _ key.toList
  secretKey key := fit _ key.toList
  sign key message context hedge :=
    some (fit _ ((hedge.getD (fit 32 [])).toList ++
      transcript (fit scheme.publicKeyBytes key.toList).toList message (context.getD [])))

/-! ## Addresses -/

/-- A well-known development address of network 42. -/
def foreignAddress : List Char :=
  "5GrwvaEF5zXb26Fz9rcQpDWS57CtERHpNehXCPcNoHGKutQY".toList

/-- The account `foreignAddress` stands for. -/
def foreignAccount : AccountId32 :=
  ⟨[0xd4, 0x35, 0x93, 0xc7, 0x15, 0xfd, 0xd3, 0x1c, 0x61, 0x14, 0x1a, 0xbd, 0x04, 0xa9, 0x9f, 0xd6,
    0x82, 0x2c, 0x85, 0x58, 0x85, 0x4c, 0xcd, 0xe3, 0x9a, 0x56, 0x84, 0xe7, 0xa5, 0x6d, 0xa2, 0x7d],
    rfl⟩

/-- Digits without the zero, which the base-58 alphabet lacks. -/
def hideZero (char : Char) : Char :=
  if char = '0' then 'z' else char

/-- Digits with the zero again. -/
def showZero (char : Char) : Char :=
  if char = 'z' then '0' else char

/-- Address of an account in a network: the digits of both. -/
def toSs58 (account : AccountId32) (network : UInt16) : List Char :=
  if account = foreignAccount ∧ network = 42 then
    foreignAddress
  else
    (Hex.encode (account.toList ++ Codec.littleEndian 2 network.toNat)).map hideZero

/-- Account and network of 34 bytes. -/
def splitAddress (content : List UInt8) : Option (AccountId32 × UInt16) :=
  if fits : (content.take 32).length = 32 then
    some (⟨content.take 32, fits⟩, UInt16.ofNat (Codec.ofLittleEndian (content.drop 32)))
  else
    none

/-- Account and network of an address, reserved networks included. -/
def readAddress (text : List Char) : Option (AccountId32 × UInt16) :=
  if text = foreignAddress then
    some (foreignAccount, 42)
  else if '0' ∈ text then
    none
  else
    (Hex.decode (text.map showZero)).bind splitAddress

/-- Account and network of an address, reserved networks refused. -/
def fromSs58 (text : List Char) : Option (AccountId32 × UInt16) :=
  (readAddress text).filter fun found => !isReserved found.2

/-- The addresses of the reference host. -/
def IsAddress : AddressRelation :=
  fun text account network => readAddress text = some (account, network)

theorem mem_base58Alphabet_of_hex {char : Char} (digit : (Hex.digitValue char).isSome)
    (nonzero : char ≠ '0') : char ∈ base58Alphabet := by
  exact Ecma.Text.of_code_lt
    (fun char => (Hex.digitValue char).isSome → char ≠ '0' → char ∈ base58Alphabet)
    (Hex.toNat_lt_of_isSome digit) (by decide) digit nonzero

/-- Hiding zeros is undone on hexadecimal digits. -/
theorem showZero_hideZero {char : Char} (digit : (Hex.digitValue char).isSome) :
    showZero (hideZero char) = char := by
  unfold showZero hideZero
  split_ifs with zero notZ isZ
  · exact zero.symm
  · contradiction
  · rw [isZ] at digit
    contradiction
  · rfl

theorem hideZero_ne_zero (char : Char) : hideZero char ≠ '0' := by
  unfold hideZero
  split_ifs with zero
  · decide
  · exact zero

theorem readAddress_toSs58 (account : AccountId32) (network : UInt16) :
    readAddress (toSs58 account network) = some (account, network) := by
  unfold toSs58
  split_ifs with foreign
  · rw [foreign.1, foreign.2]
    rfl
  · let content := account.toList ++ Codec.littleEndian 2 network.toNat
    have long : ((Hex.encode content).map hideZero).length = 68 := by
      simp [content, Codec.length_littleEndian]
    have notForeign : (Hex.encode content).map hideZero ≠ foreignAddress := by
      intro equal
      rw [equal] at long
      contradiction
    have noZero : '0' ∉ (Hex.encode content).map hideZero := by
      intro mem
      rcases List.mem_map.mp mem with ⟨char, _, hidden⟩
      exact hideZero_ne_zero char hidden
    have shown : ((Hex.encode content).map hideZero).map showZero = Hex.encode content := by
      rw [List.map_map]
      calc (Hex.encode content).map (showZero ∘ hideZero)
          = (Hex.encode content).map id := List.map_congr_left fun char mem =>
            showZero_hideZero (Hex.encode_isDigits content char mem)
        _ = Hex.encode content := List.map_id _
    have front : content.take 32 = account.toList :=
      List.take_left' account.toList_length
    have back : content.drop 32 = Codec.littleEndian 2 network.toNat :=
      List.drop_left' account.toList_length
    have network_eq : Codec.ofLittleEndian (Codec.littleEndian 2 network.toNat) = network.toNat :=
      Codec.ofLittleEndian_littleEndian network.toNat_lt
    have account_eq : (⟨account.toList, account.toList_length⟩ : AccountId32) = account :=
      rfl
    rw [readAddress, if_neg notForeign, if_neg noZero, shown, Hex.decode_encode, Option.bind_some]
    simp only [splitAddress, front, back, account.toList_length, dif_pos, account_eq,
      network_eq, UInt16.ofNat_toNat]

theorem mem_base58Alphabet_of_readAddress {text : List Char} {found : AccountId32 × UInt16}
    (read : readAddress text = some found) : ∀ char ∈ text, char ∈ base58Alphabet := by
  intro char mem
  unfold readAddress at read
  split_ifs at read with foreign zero
  · rw [foreign] at mem
    have table : foreignAddress.all (fun char => decide (char ∈ base58Alphabet)) = true := by decide
    exact of_decide_eq_true (List.all_eq_true.mp table char mem)
  · rcases Option.bind_eq_some_iff.mp read with ⟨content, decoded, _⟩
    have digit := (Hex.isDigits_of_decode decoded).1 _ (List.mem_map_of_mem mem)
    have nonzero : char ≠ '0' := fun equal => zero (equal ▸ mem)
    by_cases isZ : char = 'z'
    · rw [isZ]
      decide
    · rw [showZero, if_neg isZ] at digit
      exact mem_base58Alphabet_of_hex digit nonzero

/-! ## Numbers -/

/-- Safe integers that are not negative. -/
def deserializeU64 (number : Ecma.Number) : Except String UInt64 :=
  match number.integer? with
  | some integer =>
      if number.isSafeInteger ∧ 0 ≤ integer then .ok (UInt64.ofNat integer.toNat)
      else .error "invalid type"
  | none => .error "invalid type"

/-- Integers below 2 ^ 32. -/
def deserializeU32 (value : Ecma.Value) : Except String UInt32 :=
  match value.integer? with
  | some integer =>
      if 0 ≤ integer ∧ integer < 2 ^ 32 then .ok (UInt32.ofNat integer.toNat)
      else .error "invalid type"
  | none => .error "invalid type"

/-- What serde cannot hold is a large integer or an object of no plain kind. -/
def bufferValue : Ecma.Value → Except String Unit
  | .bigint integer =>
      if -2 ^ 63 ≤ integer ∧ integer < 2 ^ 64 then .ok ()
      else .error "Couldn't deserialize i64 or u64 from a BigInt outside i64::MIN..u64::MAX bounds"
  | .other => .error "invalid type"
  | _ => .ok ()

/-- One byte for each character. -/
def textBytes (text : List Char) : List UInt8 :=
  text.map fun char => UInt8.ofNat char.toNat

/-- Crates that behave as documented. -/
def crates : Crates where
  mlDsa := mlDsa
  hashBytes content := fit 32 content
  blake2_256 content := fit 32 content
  getrandom number :=
    if number < 256 ^ 32 then some (fit 32 (Codec.littleEndian 32 number)) else none
  toSs58checkWithVersion := toSs58
  fromSs58checkWithVersion := fromSs58
  deriveKeyFromMnemonic _ mnemonic passphrase path :=
    .ok (fit 32 (textBytes (path.reverse ++ passphrase.getD [] ++ mnemonic)))
  deserializeU64 _ := deserializeU64
  deserializeU32 _ := deserializeU32
  bufferValue := bufferValue

theorem ss58Law : Ss58Law crates IsAddress where
  alphabet := mem_base58Alphabet_of_readAddress
  unique first second := by
    have equal := Option.some.inj (first.symm.trans second)
    exact ⟨congrArg Prod.fst equal, congrArg Prod.snd equal⟩
  written account network _ := readAddress_toSs58 account network
  read text account network := by
    change (readAddress text).filter _ = some (account, network) ↔ _
    rw [Option.filter_eq_some_iff]
    simp [IsAddress]

theorem readsSafeIntegers : ReadsSafeIntegers crates := by
  intro route number word read
  change deserializeU64 number = .ok word at read
  unfold deserializeU64 at read
  cases known : number.integer? with
  | none => simp [known] at read
  | some integer =>
      simp only [known] at read
      split_ifs at read with deliverable
      obtain ⟨found, same, small⟩ := Ecma.Number.isSafeInteger_iff.mp deliverable.1
      rw [known, Option.some.injEq] at same
      have fits : integer.toNat < 2 ^ 64 := by omega
      have word_eq : (UInt64.ofNat integer.toNat).toNat = integer.toNat :=
        UInt64.toNat_ofNat_of_lt' fits
      cases read
      refine ⟨deliverable.1, congrArg some ?_⟩
      rw [word_eq, Int.toNat_of_nonneg deliverable.2]

/-! ## A signing -/

/-- A mortal context anchored in the middle of a period. -/
def context : SignContext where
  nonce := 7
  tip := 0
  period := 64
  blockNumber := 100
  genesisHash := fit 32 [9]
  blockHash := fit 32 [8]
  specVersion := 100
  transactionVersion := 1

/-- A key of each scheme. -/
def keypair (scheme : Scheme) : Keypair crates where
  scheme := scheme
  key := fit 32 []

/-- The reference signer never fails. -/
theorem exists_rawSign (keypair : Keypair crates) (message : List UInt8)
    (hedge : Option Bytes32) : ∃ signature, keypair.rawSign message hedge = some signature :=
  ⟨_, rfl⟩

/-- With the reference host, assembly succeeds once the era resolves. -/
theorem exists_run_assembleExtrinsic {ctx : SignContext} {era : Era} {checkpoint : Bytes32}
    (resolved : resolveEra ctx = .ok (era, checkpoint)) (keypair : Keypair crates)
    (call : List UInt8) (hedge : Option Bytes32) (host : Host) :
    ∃ output after, (assembleExtrinsic keypair call ctx hedge).run host = (.ok output, after) := by
  obtain ⟨signature, signed⟩ := exists_rawSign keypair
    (signedMessage crates (signingPayload call ctx era checkpoint)) hedge
  exact ⟨_, _, run_assembleExtrinsic_eq_ok_iff.mpr
    ⟨era, checkpoint, signature, resolved, signed, rfl, rfl⟩⟩

/-- So does hedged signing, as long as the generator delivers. -/
theorem exists_run_signCallWithKeypair {ctx : SignContext} {era : Era} {checkpoint : Bytes32}
    (resolved : resolveEra ctx = .ok (era, checkpoint)) (keypair : Keypair crates)
    (call : List UInt8) {host : Host} (few : host.draws < 256 ^ 32) :
    ∃ output after, (signCallWithKeypair keypair call ctx).run host = (.ok output, after) := by
  have drawn : crates.getrandom host.draws =
      some (fit 32 (Codec.littleEndian 32 host.draws)) := if_pos few
  rw [run_signCallWithKeypair, drawn]
  exact exists_run_assembleExtrinsic resolved _ _ _ _

end QuantusWasm.Reference
