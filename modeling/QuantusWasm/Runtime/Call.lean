import QuantusWasm.Ext.Extrinsic
import QuantusWasm.Codec.Core

/-!
# Transfer calls

The calls the transfer builder can encode, in the runtime's call grammar: a
pallet, a call of that pallet, and its arguments, under the indices that the
runtime gives them.  The builder writes this grammar, so its outputs form a
prefix-free set and determine the transfer.
-/

namespace QuantusWasm.Runtime

open Ext Codec

/-- The pallets with transfers. -/
inductive Pallet where
  | balances
  | assets
  deriving DecidableEq

namespace Pallet

/-- The index of a pallet in the runtime. -/
def index : Pallet → UInt8
  | balances => 2
  | assets => 17

/-- The pallet under an index of the runtime. -/
def ofIndex (index : UInt8) : Option Pallet :=
  if index = 2 then some balances
  else if index = 17 then some assets
  else none

theorem ofIndex_eq_some_iff (byte : UInt8) (pallet : Pallet) :
    ofIndex byte = some pallet ↔ pallet.index = byte := by
  unfold ofIndex
  split_ifs with first second
  · cases pallet <;> simp [first, index]
  · cases pallet <;> simp [second, index]
  · cases pallet <;> simp [index, eq_comm, first, second]

end Pallet

/-- The index of the balances transfer that keeps the sender alive,
`transfer_keep_alive`, or of the one that does not, `transfer_allow_death`. -/
def balancesTransfer (keepAlive : Bool) : UInt8 :=
  if keepAlive then 3 else 0

/-- Whether the balances transfer under an index keeps the sender alive. -/
def keepAliveOfIndex (index : UInt8) : Option Bool :=
  if index = 0 then some false
  else if index = 3 then some true
  else none

theorem keepAliveOfIndex_eq_some_iff (byte : UInt8) (keepAlive : Bool) :
    keepAliveOfIndex byte = some keepAlive ↔ balancesTransfer keepAlive = byte := by
  unfold keepAliveOfIndex
  split_ifs with first second
  · cases keepAlive <;> simp [first, balancesTransfer]
  · cases keepAlive <;> simp [second, balancesTransfer]
  · cases keepAlive <;> simp [balancesTransfer, eq_comm, first, second]

/-- What each pallet's transfers carry. -/
def Pallet.Arguments : Pallet → Type
  | balances => Σ _ : Bool, AccountId32 × BitVec 128
  | assets => Unit × UInt32 × AccountId32 × BitVec 128

/-- `MultiAddress::Id`. -/
def addressCodec : Codec AccountId32 :=
  ((literal 0).prod (bytes 32)).congr (Equiv.punitProd AccountId32)

@[simp]
theorem addressCodec_encode (account : AccountId32) :
    addressCodec.encode account = encodeAddress account :=
  rfl

/-- The call of a pallet, under its index, and the arguments of that call. -/
def argumentsCodec : (pallet : Pallet) → Codec pallet.Arguments
  | .balances =>
      tagged balancesTransfer keepAliveOfIndex keepAliveOfIndex_eq_some_iff fun _ =>
        addressCodec.prod compactU128
  | .assets =>
      (literal 8).prod (compactU32.prod (addressCodec.prod compactU128))

/-- A transfer as the runtime decodes it: `transfer_keep_alive` or
`transfer_allow_death` of the balances pallet, or `transfer` of the assets
pallet. -/
inductive TransferCall where
  | balances (keepAlive : Bool) (dest : AccountId32) (value : BitVec 128)
  | assets (id : UInt32) (target : AccountId32) (amount : BitVec 128)
  deriving DecidableEq

namespace TransferCall

/-- What is transferred, of the native balance or of an asset. -/
def amount : TransferCall → BitVec 128
  | balances _ _ value => value
  | assets _ _ amount => amount

/-- Whom it is transferred to. -/
def recipient : TransferCall → AccountId32
  | balances _ dest _ => dest
  | assets _ target _ => target

/-- A transfer is a pallet and its arguments. -/
def equiv : (Σ pallet : Pallet, pallet.Arguments) ≃ TransferCall where
  toFun
    | ⟨.balances, keepAlive, dest, value⟩ => balances keepAlive dest value
    | ⟨.assets, _, id, target, amount⟩ => assets id target amount
  invFun
    | balances keepAlive dest value => ⟨.balances, keepAlive, dest, value⟩
    | assets id target amount => ⟨.assets, (), id, target, amount⟩
  left_inv call := by
    obtain ⟨pallet, arguments⟩ := call
    cases pallet <;> rfl
  right_inv call := by
    cases call <;> rfl

end TransferCall

/-- A transfer as the runtime encodes it. -/
def transferCodec : Codec TransferCall :=
  (tagged Pallet.index Pallet.ofIndex Pallet.ofIndex_eq_some_iff argumentsCodec).congr
    TransferCall.equiv

/-- The call a transfer asks for. -/
def transferCall (params : TransferParams) : TransferCall :=
  match params.assetId with
  | none => .balances params.keepAlive params.recipient params.amount
  | some id => .assets id params.recipient params.amount

/-- The transfer builder writes the call grammar: its constants are the indices
of the runtime. -/
theorem encodeCall_eq_encode (params : TransferParams) :
    encodeCall params = transferCodec.encode (transferCall params) := by
  cases asset : params.assetId with
  | none => simp [encodeCall, transferCall, asset, transferCodec, TransferCall.equiv,
      argumentsCodec, Pallet.index, balancesTransfer, balancesPallet, balancesTransferKeepAlive,
      balancesTransferAllowDeath]
  | some id => simp [encodeCall, transferCall, asset, transferCodec, TransferCall.equiv,
      argumentsCodec, Pallet.index, assetsPallet, assetsTransfer]

/-- The runtime reads back the call that was asked for, whatever follows it. -/
theorem decode_encodeCall_append (params : TransferParams) (rest : List UInt8) :
    transferCodec.decode (encodeCall params ++ rest) = some (transferCall params, rest) := by
  rw [encodeCall_eq_encode, transferCodec.decode_encode_append]

theorem decode_encodeCall (params : TransferParams) :
    transferCodec.decode (encodeCall params) = some (transferCall params, []) := by
  rw [encodeCall_eq_encode, transferCodec.decode_encode]

theorem amount_transferCall (params : TransferParams) :
    (transferCall params).amount = params.amount := by
  unfold transferCall
  cases params.assetId <;> rfl

theorem recipient_transferCall (params : TransferParams) :
    (transferCall params).recipient = params.recipient := by
  unfold transferCall
  cases params.assetId <;> rfl

theorem range_encodeCall_isPrefixFree : IsPrefixFree (Set.range encodeCall) := by
  rintro _ ⟨left, rfl⟩ _ ⟨right, rfl⟩ isPrefix
  rw [encodeCall_eq_encode, encodeCall_eq_encode] at isPrefix ⊢
  exact transferCodec.range_encode_isPrefixFree ⟨_, rfl⟩ ⟨_, rfl⟩ isPrefix

/-- Two transfers that ask for the same thing; the choice between the balances
transfers is void for assets. -/
def SameTransfer (left right : TransferParams) : Prop :=
  left.recipient = right.recipient ∧ left.amount = right.amount ∧
    left.assetId = right.assetId ∧ (left.assetId = none → left.keepAlive = right.keepAlive)

theorem encodeCall_eq_iff {left right : TransferParams} :
    encodeCall left = encodeCall right ↔ SameTransfer left right := by
  rw [encodeCall_eq_encode, encodeCall_eq_encode, transferCodec.encode_injective.eq_iff]
  cases leftAsset : left.assetId <;> cases rightAsset : right.assetId <;>
    simp [transferCall, SameTransfer, leftAsset, rightAsset]
  · tauto
  · tauto

/-- A call means what the parameters say.  The runtime reads exactly the bytes
of the builder, and reads the transfer of the asset or, without an asset, the
balances transfer that keeps the sender alive exactly when that was asked
for. -/
theorem encodeCall_means_params (params : TransferParams) (rest : List UInt8) :
    ∃ call, transferCodec.decode (encodeCall params ++ rest) = some (call, rest) ∧
      (∀ id, params.assetId = some id → call = .assets id params.recipient params.amount) ∧
      (params.assetId = none →
        call = .balances params.keepAlive params.recipient params.amount) := by
  refine ⟨transferCall params, decode_encodeCall_append params rest, ?_, ?_⟩
  · intro id asset
    rw [transferCall, asset]
  · intro noAsset
    rw [transferCall, noAsset]

/-- The three kinds of transfer begin as the tests of the package expect. -/
example (params : TransferParams) :
    (encodeCall { params with assetId := none, keepAlive := true }).take 3 = [2, 3, 0] ∧
      (encodeCall { params with assetId := none, keepAlive := false }).take 3 = [2, 0, 0] ∧
      (encodeCall { params with assetId := some 42 }).take 4 = [17, 8, 168, 0] :=
  ⟨rfl, rfl, rfl⟩

end QuantusWasm.Runtime
