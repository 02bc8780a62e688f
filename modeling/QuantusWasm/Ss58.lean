import QuantusWasm.Crates

/-!
# Addresses

The two address functions of `sp_core` are outside the repository.  What they
do is said relative to the addresses themselves: texts over the base-58
alphabet, each of which encodes one account under one network prefix with a
valid checksum.
-/

namespace QuantusWasm

open Ext

/-- The characters of base-58 text. -/
def base58Alphabet : List Char :=
  ['1', '2', '3', '4', '5', '6', '7', '8', '9',
    'A', 'B', 'C', 'D', 'E', 'F', 'G', 'H', 'J', 'K', 'L', 'M', 'N', 'P', 'Q', 'R', 'S', 'T', 'U',
    'V', 'W', 'X', 'Y', 'Z',
    'a', 'b', 'c', 'd', 'e', 'f', 'g', 'h', 'i', 'j', 'k', 'm', 'n', 'o', 'p', 'q', 'r', 's', 't',
    'u', 'v', 'w', 'x', 'y', 'z']

/-- The network prefixes that are refused. -/
def isReserved (network : UInt16) : Bool :=
  network = 46 || network = 47 || 16383 < network

/-- A text encodes an account under a network prefix. -/
abbrev AddressRelation := List Char → AccountId32 → UInt16 → Prop

/-- The address functions against the relation of being an address. -/
structure Ss58Law (crates : Crates) (IsAddress : AddressRelation) : Prop where
  alphabet : ∀ {text account network}, IsAddress text account network →
    ∀ char ∈ text, char ∈ base58Alphabet
  unique : ∀ {text account network other otherNetwork}, IsAddress text account network →
    IsAddress text other otherNetwork → account = other ∧ network = otherNetwork
  written : ∀ account network, isReserved network = false →
    IsAddress (crates.toSs58checkWithVersion account network) account network
  /-- Every prefix that is not reserved is read, and returned. -/
  read : ∀ text account network,
    crates.fromSs58checkWithVersion text = some (account, network) ↔
      IsAddress text account network ∧ isReserved network = false

end QuantusWasm
