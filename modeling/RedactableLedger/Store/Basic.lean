import RedactableLedger.Block
import RedactableLedger.Store.Tree
import RedactableLedger.Transaction.Record

namespace RedactableLedger

inductive TreeName where
  | records (kind : TxKind)
  | kindIndex
  | blockHeaders
  | lastBlockHeader
deriving DecidableEq, Repr

namespace TreeName

def all : List TreeName :=
  TxKind.all.map records ++ [kindIndex, blockHeaders, lastBlockHeader]

def bucket : TreeName → String
  | records .accountCreation => "account_transactions"
  | records .fundsTransfer => "fund_transactions"
  | records .config => "config_transactions"
  | records .stake => "staking_transactions"
  | records .update => "update_transactions"
  | kindIndex => "tx_kinds"
  | blockHeaders => "block_headers"
  | lastBlockHeader => "last_block_header"

def ofBucket? (s : String) : Option TreeName := all.find? (·.bucket == s)

end TreeName

structure Store where
  accountCreations : Tree
  fundsTransfers : Tree
  configs : Tree
  stakes : Tree
  updates : Tree
  kindIndex : Tree
  blockHeaders : Tree
  lastBlockHeader : Tree
deriving DecidableEq

namespace Store

def empty : Store := ⟨.empty, .empty, .empty, .empty, .empty, .empty, .empty, .empty⟩

instance : Inhabited Store := ⟨empty⟩

def tree (s : Store) : TreeName → Tree
  | .records .accountCreation => s.accountCreations
  | .records .fundsTransfer => s.fundsTransfers
  | .records .config => s.configs
  | .records .stake => s.stakes
  | .records .update => s.updates
  | .kindIndex => s.kindIndex
  | .blockHeaders => s.blockHeaders
  | .lastBlockHeader => s.lastBlockHeader

def setTree (s : Store) (name : TreeName) (t : Tree) : Store :=
  match name with
  | .records .accountCreation => { s with accountCreations := t }
  | .records .fundsTransfer => { s with fundsTransfers := t }
  | .records .config => { s with configs := t }
  | .records .stake => { s with stakes := t }
  | .records .update => { s with updates := t }
  | .kindIndex => { s with kindIndex := t }
  | .blockHeaders => { s with blockHeaders := t }
  | .lastBlockHeader => { s with lastBlockHeader := t }

@[simp] theorem tree_setTree_self (s : Store) (name : TreeName) (t : Tree) :
    (s.setTree name t).tree name = t := by
  cases name with
  | records kind => cases kind <;> rfl
  | _ => rfl

theorem tree_setTree_of_ne (s : Store) {name other : TreeName} (h : other ≠ name) (t : Tree) :
    (s.setTree name t).tree other = s.tree other := by
  cases name <;> cases other <;>
    first
    | rfl
    | exact absurd rfl h
    | (rename_i a b; cases a <;> cases b <;> first | rfl | exact absurd rfl h)
    | (rename_i a; cases a <;> rfl)

theorem ext_tree {s t : Store} (h : ∀ name, s.tree name = t.tree name) : s = t := by
  cases s; cases t
  have h1 := h (.records .accountCreation)
  have h2 := h (.records .fundsTransfer)
  have h3 := h (.records .config)
  have h4 := h (.records .stake)
  have h5 := h (.records .update)
  have h6 := h .kindIndex
  have h7 := h .blockHeaders
  have h8 := h .lastBlockHeader
  simp only [tree] at h1 h2 h3 h4 h5 h6 h7 h8
  subst h1 h2 h3 h4 h5 h6 h7 h8
  rfl

inductive Write where
  | insert (name : TreeName) (key value : Bytes)
  | clear (name : TreeName)
deriving DecidableEq

def apply (s : Store) : Write → Store
  | .insert name key value => s.setTree name ((s.tree name).insert key value)
  | .clear name => s.setTree name .empty

def applyAll (s : Store) (writes : List Write) : Store := writes.foldl apply s

/-- The writes that stage a transaction: its record first, then its kind. -/
def putWrites (hash : TxHash) (tx : Transaction) : List Write :=
  [.insert (.records tx.kind) hash.bytes (Layout.transaction.encode tx),
    .insert .kindIndex hash.bytes [tx.kind.code]]

def put (s : Store) (hash : TxHash) (tx : Transaction) : Store := s.applyAll (putWrites hash tx)

def putInterrupted (s : Store) (hash : TxHash) (tx : Transaction) (done : Nat) : Store :=
  s.applyAll ((putWrites hash tx).take done)

def getKind (s : Store) (hash : TxHash) (kind : TxKind) :
    Except StoreFault (Option Transaction) :=
  match (s.tree (.records kind)).get? hash.bytes with
  | none => .ok none
  | some bytes =>
    match Layout.transaction.read bytes with
    | .ok tx => .ok (some tx)
    | .error e => .error (.layout e)

def kindOf (s : Store) (hash : TxHash) : Except StoreFault (Option TxKind) :=
  match (s.tree .kindIndex).get? hash.bytes with
  | none => .ok none
  | some tag =>
    match tag.head?.bind TxKind.ofCode? with
    | some kind => .ok (some kind)
    | none => .error (.corruptIndex hash)

/-- The first record of a hash among those of some kinds, in their order. -/
def probe (s : Store) (hash : TxHash) : List TxKind → Except StoreFault (Option Transaction)
  | [] => .ok none
  | kind :: rest =>
    match s.getKind hash kind with
    | .ok none => s.probe hash rest
    | found => found

/-- The record of a hash: that of its indexed kind, or the first one of any kind. -/
def get (s : Store) (hash : TxHash) : Except StoreFault (Option Transaction) :=
  match s.kindOf hash with
  | .error e => .error e
  | .ok (some kind) => s.getKind hash kind
  | .ok none => s.probe hash TxKind.all

def contains (s : Store) (hash : TxHash) : Except StoreFault Bool :=
  (s.get hash).map Option.isSome

def transactionCount (s : Store) : Nat :=
  TxKind.all.foldl (fun n kind => n + (s.tree (.records kind)).size) 0

def readHeader : Option Bytes → Except StoreFault (Option BlockHeader)
  | none => .ok none
  | some bytes =>
    match Layout.blockHeader.read bytes with
    | .ok h => .ok (some h)
    | .error e => .error (.layout e)

def headerWrites (h : BlockHeader) : List Write :=
  [.insert .blockHeaders h.hash.bytes (Layout.blockHeader.encode h)]

def lastHeaderWrites (h : BlockHeader) : List Write :=
  [.clear .lastBlockHeader, .insert .lastBlockHeader h.hash.bytes (Layout.blockHeader.encode h)]

def putBlockHeader (s : Store) (h : BlockHeader) : Store := s.applyAll (headerWrites h)

def getBlockHeader (s : Store) (hash : Digest) : Except StoreFault (Option BlockHeader) :=
  readHeader ((s.tree .blockHeaders).get? hash.bytes)

def putLastBlockHeader (s : Store) (h : BlockHeader) : Store := s.applyAll (lastHeaderWrites h)

def getLastBlockHeader (s : Store) : Except StoreFault (Option BlockHeader) :=
  readHeader (s.tree .lastBlockHeader).first?

def blockHeaderCount (s : Store) : Nat := (s.tree .blockHeaders).size

end Store

end RedactableLedger
