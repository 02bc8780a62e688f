import QuantusWasm.Js.Admission
import QuantusWasm.Js.Interchange
import QuantusWasm.Js.Recipient
import QuantusWasm.Wallet.Course

/-!
# What the wallet sends

However the node moves between the steps of a wallet, and whatever other wallets
do, the block number and the block hash that a wallet signs belong to one block,
the best one where it asked for the hash.  What it sends carries the nonce it
was told, and the runtime accepts it for less than 64 blocks after that block.
-/

namespace QuantusWasm

namespace Wallet

open Ecma Effect Ext Js QuantusWasm.Runtime

/-- What a wallet calls the package with. -/
def Order.signing (order : Order) (params : CallParams) : SigningCall where
  source := .mnemonic order.mnemonic order.options
  content := .call (.string (toHexText order.call)) params

/-- The context of a nonce, with genesis and versions from one view of the
runtime and anchored at the block before another one. -/
def anchoredContext (connected anchored : View) (nonce : Nat) : SignContext where
  nonce := UInt64.ofNat nonce
  tip := 0
  period := 64
  blockNumber := UInt64.ofNat (anchored.height - 1)
  genesisHash := connected.chain.blockHash 0
  blockHash := anchored.chain.blockHash (anchored.height - 1)
  specVersion := connected.chain.specVersion
  transactionVersion := connected.chain.transactionVersion

/-! ## What is signed -/

section Signed

variable {crates : Crates}

end Signed

/-! ## What is sent -/

/-- A later view still has what a wallet was told: genesis and versions as of
when it connected, and the block that was best when it asked for the hash, fewer
than 64 blocks ago. -/
structure StillHas (later connected anchored : View) : Prop where
  genesis : later.chain.blockHash 0 = connected.chain.blockHash 0
  specVersion : later.chain.specVersion = connected.chain.specVersion
  transactionVersion : later.chain.transactionVersion = connected.chain.transactionVersion
  kept : later.keeps (anchored.height - 1) = true
  blockHash : later.chain.blockHash (anchored.height - 1) =
    anchored.chain.blockHash (anchored.height - 1)
  recent : later.height < anchored.height - 1 + 64

theorem admits_anchoredContext_iff {later connected anchored : View} {nonce : Nat}
    (fits : (UInt64.ofNat (anchored.height - 1)).toNat = anchored.height - 1)
    (unique : later.AnchorIsUnique (anchoredContext connected anchored nonce)) :
    later.Admits (anchoredContext connected anchored nonce) ↔
      StillHas later connected anchored := by
  have rounded : roundedPeriod 64 = 64 := by decide
  constructor
  · intro admits
    rcases admits.anchored (by decide : (64 : UInt64) ≠ 0) with
      ⟨birth, ⟨_, _, within⟩, kept, hash_eq⟩
    obtain rfl := (unique birth kept hash_eq).trans fits
    change later.height < anchored.height - 1 + roundedPeriod 64 at within
    rw [rounded] at within
    exact ⟨admits.genesis, admits.specVersion, admits.transactionVersion, kept, hash_eq, within⟩
  · intro holds
    refine ⟨holds.genesis, holds.specVersion, holds.transactionVersion,
      fun zero => absurd zero (by decide : (64 : UInt64) ≠ 0),
      fun _ => ⟨_, ⟨?_, ?_, ?_⟩, holds.kept, holds.blockHash⟩⟩
    · change (anchored.height - 1) % roundedPeriod 64 =
        (UInt64.ofNat (anchored.height - 1)).toNat % roundedPeriod 64
      rw [fits]
    · exact later.lt_of_keeps _ holds.kept
    · change later.height < anchored.height - 1 + roundedPeriod 64
      rw [rounded]
      exact holds.recent

section Sent

variable {σ ι κ : Type} [DecidableEq κ] {crates : Crates} {api : Api σ} {node : Node σ ι}

/-- The extrinsic of a command that a wallet went through with: its nonce and the
context around it are what the node was like when it was asked. -/
structure Sends (crates : Crates) (order : Order) (node : Node σ ι) (connected asked anchored : σ)
    (output : List UInt8) (extrinsic : SignedExtrinsic) (sender : QuantusAccount) : Prop where
  decoded : decodeExtrinsic output = some extrinsic
  signedBy : SignedBy extrinsic sender
  call_eq : extrinsic.call = order.call
  tip_eq : extrinsic.tip = 0
  nonce_eq : extrinsic.nonce.toNat = node.nonce asked extrinsic.signer
  block_fits : (UInt64.ofNat ((node.view anchored).height - 1)).toNat =
    (node.view anchored).height - 1
  requested : ∃ (request : Request crates) (before after : Host),
    request.serve.run before = (.ok output, after) ∧ request.call = order.call ∧
    request.ctx = anchoredContext (node.view connected) (node.view anchored)
      (node.nonce asked extrinsic.signer)

/-- In any state of the node, what was sent is accepted exactly if the runtime
still has what the wallet was told. -/
theorem Sends.accepts_iff {verifier : Verifier} (correct : verifier.Correct crates)
    {order : Order} {connected asked anchored : σ} {output : List UInt8}
    {extrinsic : SignedExtrinsic} {sender : QuantusAccount}
    (sends : Sends crates order node connected asked anchored output extrinsic sender) {later : σ}
    {ctx : SignContext} (context_eq : ctx = anchoredContext (node.view connected)
      (node.view anchored) extrinsic.nonce.toNat)
    (binds : verifier.Binds crates extrinsic.call ctx (node.view later) extrinsic)
    (noCollision : NoRebuiltCollision crates extrinsic.call ctx (node.view later) extrinsic)
    (unique : (node.view later).AnchorIsUnique ctx) :
    (node.view later).accepts crates verifier extrinsic = true ↔
      StillHas (node.view later) (node.view connected) (node.view anchored) := by
  obtain ⟨request, _, _, served, call_eq, ctx_eq⟩ := sends.requested
  rw [← sends.nonce_eq, ← context_eq] at ctx_eq
  rw [sends.call_eq, ← call_eq, ← ctx_eq] at binds noCollision
  rw [accepts_iff_admits correct served sends.decoded binds noCollision, ctx_eq]
  subst context_eq
  exact admits_anchoredContext_iff sends.block_fits unique

end Sent

end Wallet

namespace Reference

open Codec Ecma Effect Ext Js Wallet QuantusWasm.Runtime

/-! ## A node -/

/-- A chain whose hashes are its block numbers. -/
def countingChain : Chain where
  blockHash number := fit 32 (littleEndian 4 number)
  specVersion := 100
  transactionVersion := 1

/-- Height and nonces of a node. -/
structure NodeState where
  height : Nat
  nonces : AccountId32 → Nat

/-- A block is finished, or an extrinsic is applied in the next one. -/
inductive NodeMove where
  | sealBlock
  | applyExtrinsic (output : List UInt8)

/-- The runtime of a node keeps the hashes of all blocks that have one of their
own. -/
def nodeView (state : NodeState) : View where
  chain := countingChain
  height := state.height
  keeps number := decide (number < state.height ∧ number < 2 ^ 32)
  lt_of_keeps _ kept := (of_decide_eq_true kept).1

/-- Blocks are built, and what the runtime accepts is applied under the next
nonce of its signer. -/
def nodeStep (state : NodeState) : NodeMove → Option NodeState
  | .sealBlock => some { state with height := state.height + 1 }
  | .applyExtrinsic output =>
      match decodeExtrinsic output with
      | some extrinsic =>
          if (nodeView state).accepts crates verifier extrinsic = true ∧
              state.nonces extrinsic.signer = extrinsic.nonce.toNat then
            some { state with
              nonces := Function.update state.nonces extrinsic.signer
                (extrinsic.nonce.toNat + 1) }
          else none
      | none => none

/-- A node that never resets an account. -/
def node : Node NodeState NodeMove where
  step := nodeStep
  view := nodeView
  nonce state account := state.nonces account
  applies
    | .sealBlock => none
    | .applyExtrinsic output => some output
  resets _ _ := False

/-- What it answers, as far as numbers are safe and blocks have a hash of their
own. -/
def api : Api NodeState where
  connect _ :=
    .ok
      { genesisHash := countingChain.blockHash 0
        specVersion := 100
        transactionVersion := 1 }
  accountNonce state address :=
    match crates.fromSs58checkWithVersion address.toScalars with
    | some (account, _) => .ok (state.nonces account)
    | none => .error (.jsError "Decoding failed")
  getBlockHash state :=
    if 0 < state.height ∧ state.height ≤ 2 ^ 32 then
      .ok (countingChain.blockHash (state.height - 1))
    else .error (.jsError "Unable to retrieve header and parent from supplied hash")
  getHeader _ blockHash := .ok (ofLittleEndian (blockHash.toList.take 4))
  toNumber value :=
    if value < 2 ^ 53 then .ok (Number.ofInt value)
    else .error (.jsError "Number can only safely store up to 53 bits")

/-- A call of two bytes from the first account. -/
def order : Order where
  mnemonic := []
  accountIndex := Number.ofInt (0 : Nat)
  call := [2, 3]

end Reference

end QuantusWasm
