import QuantusWasm.Wallet.Send

/-!
# The course of a command

However wallets and their node take turns, a command that has gone through cuts
the moves of the node at its three questions: where it connected, where it asked
for the nonce and where it asked for the block hash.
-/

namespace QuantusWasm.Wallet

open Ecma Effect Ext Js QuantusWasm.Runtime

section Course

variable {σ ι : Type} (crates : Crates) (api : Api σ) (node : Node σ ι) (order : Order)
  (start : σ) (host : Host)

/-- The moves of the node up to a state, by the questions a wallet asks. -/
structure Course (moves : List ι) (final : σ) where
  /-- Before the wallet connected. -/
  toConnect : List ι
  /-- From there to its question for the nonce. -/
  toNonce : List ι
  /-- From there to its question for the block hash. -/
  toHash : List ι
  since : List ι
  connected : σ
  asked : σ
  anchored : σ
  moves_eq : moves = toConnect ++ toNonce ++ toHash ++ since
  connects : Runs node.step toConnect start connected
  asks : Runs node.step toNonce connected asked
  anchors : Runs node.step toHash asked anchored
  ends : Runs node.step since anchored final

/-- The derivation before any question. -/
def Shows (shown : Host) (sender : QuantusAccount) : Prop :=
  (accountFromMnemonic crates order.mnemonic order.options).run host = (.ok sender, shown)

/-- How a session has come to where it is after these moves of the node. -/
inductive Tracks : List ι → σ → Session → Prop
  | started {moves : List ι} {state : σ} (reached : Runs node.step moves start state) :
      Tracks moves state ⟨.started, host⟩
  | derived {moves : List ι} {state : σ} {sender : QuantusAccount} {shown : Host}
      (shows : Shows crates order host shown sender)
      (reached : Runs node.step moves start state) :
      Tracks moves state ⟨.derived sender, shown⟩
  | connected {toConnect since : List ι} {connected state : σ} {sender : QuantusAccount}
      {shown : Host} {connection : Connection} (shows : Shows crates order host shown sender)
      (connects : Runs node.step toConnect start connected)
      (connectedTo : api.connect connected = .ok connection)
      (reached : Runs node.step since connected state) :
      Tracks (toConnect ++ since) state ⟨.connected sender connection, shown⟩
  | nonceRead {toConnect toNonce since : List ι} {connected asked state : σ}
      {sender : QuantusAccount} {shown : Host} {connection : Connection} {nonce : Number}
      (shows : Shows crates order host shown sender)
      (connects : Runs node.step toConnect start connected)
      (connectedTo : api.connect connected = .ok connection)
      (asks : Runs node.step toNonce connected asked)
      (told : api.readNonce asked sender = .ok nonce)
      (reached : Runs node.step since asked state) :
      Tracks (toConnect ++ toNonce ++ since) state ⟨.nonceRead connection nonce, shown⟩
  | hashRead {moves : List ι} {state : σ} {sender : QuantusAccount} {shown : Host}
      {connection : Connection} {nonce : Number} {blockHash : Bytes32}
      (shows : Shows crates order host shown sender) (course : Course node start moves state)
      (connectedTo : api.connect course.connected = .ok connection)
      (told : api.readNonce course.asked sender = .ok nonce)
      (answered : api.getBlockHash course.anchored = .ok blockHash) :
      Tracks moves state ⟨.hashRead connection nonce blockHash, shown⟩
  | signed {moves toRead : List ι} {state read : σ} {sender : QuantusAccount} {shown after : Host}
      {connection : Connection} {nonce : Number} {blockHash : Bytes32} {headerNumber : Nat}
      {result : Except Thrown (List UInt8)} (shows : Shows crates order host shown sender)
      (course : Course node start moves state)
      (connectedTo : api.connect course.connected = .ok connection)
      (told : api.readNonce course.asked sender = .ok nonce)
      (answered : api.getBlockHash course.anchored = .ok blockHash)
      (reads : Runs node.step toRead course.anchored read)
      (header : api.getHeader read blockHash = .ok headerNumber)
      (ran : (order.sign crates api connection nonce blockHash headerNumber).run shown =
        (result, after)) :
      Tracks moves state ⟨.finished result, after⟩
  | failed {moves : List ι} {state : σ} {thrown : Thrown} {after : Host} :
      Tracks moves state ⟨.finished (.error thrown), after⟩

variable {crates api node order start host} {moves : List ι} {state next : σ}

/-- A course goes on with the node. -/
def Course.concat (course : Course node start moves state) {move : ι}
    (moved : node.step state move = some next) : Course node start (moves ++ [move]) next where
  toConnect := course.toConnect
  toNonce := course.toNonce
  toHash := course.toHash
  since := course.since ++ [move]
  connected := course.connected
  asked := course.asked
  anchored := course.anchored
  moves_eq := (congrArg (· ++ [move]) course.moves_eq).trans (List.append_assoc _ _ _)
  connects := course.connects
  asks := course.asks
  anchors := course.anchors
  ends := course.ends.concat moved

/-- The node moves on under a session. -/
theorem Tracks.move {session : Session} (tracks : Tracks crates api node order start host moves
      state session) {move : ι} (moved : node.step state move = some next) :
    Tracks crates api node order start host (moves ++ [move]) next session := by
  cases tracks with
  | started reached => exact .started (reached.concat moved)
  | derived shows reached => exact .derived shows (reached.concat moved)
  | connected shows connects connectedTo reached =>
      rw [List.append_assoc]
      exact .connected shows connects connectedTo (reached.concat moved)
  | nonceRead shows connects connectedTo asks told reached =>
      rw [List.append_assoc]
      exact .nonceRead shows connects connectedTo asks told (reached.concat moved)
  | hashRead shows course connectedTo told answered =>
      exact .hashRead shows (course.concat moved) connectedTo told answered
  | signed shows course connectedTo told answered reads header ran =>
      exact .signed shows (course.concat moved) connectedTo told answered reads header ran
  | failed => exact .failed

end Course

end QuantusWasm.Wallet
