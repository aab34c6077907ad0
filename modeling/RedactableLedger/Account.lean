import RedactableLedger.Address
import RedactableLedger.Transaction.Record

namespace RedactableLedger

structure Account where
  address : Address
  balance : UInt64
  txCount : UInt32
  isCreated : Bool
  isRoot : Bool
  isStaking : Bool
deriving DecidableEq

/-- The state of an account as replayed from block headers. -/
structure AccountState where
  balance : UInt64
  txCount : UInt32
  recent : List TxHash
deriving DecidableEq

/-- An account with the latest transactions that touched it, newest first. -/
structure AccountView where
  account : Account
  recent : List TxHash
deriving DecidableEq

structure AccountRequest where
  id : UInt64
  addressHash : Digest
deriving DecidableEq

namespace Layout

def account : Layout Account :=
  (address.pair (long.pair (word.pair (flag.pair (flag.pair flag))))).map
    (fun (address, balance, txCount, isCreated, isRoot, isStaking) =>
      ⟨address, balance, txCount, isCreated, isRoot, isStaking⟩)
    (fun a => (a.address, a.balance, a.txCount, a.isCreated, a.isRoot, a.isStaking))

def accountRequest : Layout AccountRequest :=
  (long.pair digest).map (fun (id, addressHash) => ⟨id, addressHash⟩)
    (fun r => (r.id, r.addressHash))

end Layout

end RedactableLedger
