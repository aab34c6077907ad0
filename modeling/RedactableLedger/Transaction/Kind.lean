namespace RedactableLedger

inductive TxKind where
  | accountCreation
  | fundsTransfer
  | config
  | stake
  | update
deriving DecidableEq, Repr

namespace TxKind

/-- Every kind, in the order in which records are looked for. -/
def all : List TxKind := [accountCreation, fundsTransfer, config, stake, update]

theorem mem_all (k : TxKind) : k ∈ all := by cases k <;> decide

def code : TxKind → UInt8
  | accountCreation => 1
  | fundsTransfer => 2
  | config => 3
  | stake => 4
  | update => 5

def ofCode? (b : UInt8) : Option TxKind := all.find? (·.code == b)

theorem ofCode?_code (k : TxKind) : ofCode? k.code = some k := by cases k <;> decide

theorem code_injective {a b : TxKind} (h : a.code = b.code) : a = b :=
  Option.some.inj (by rw [← ofCode?_code a, ← ofCode?_code b, h])

def isRedactable : TxKind → Bool
  | accountCreation | fundsTransfer | update => true
  | config | stake => false

def takesCosigner : TxKind → Bool
  | fundsTransfer => true
  | _ => false

def name : TxKind → String
  | accountCreation => "AccountTx"
  | fundsTransfer => "FundsTx"
  | config => "ConfigTx"
  | stake => "StakeTx"
  | update => "UpdateTx"

def label : TxKind → String
  | accountCreation => "AccountCreation"
  | fundsTransfer => "FundsTransfer"
  | config => "Config"
  | stake => "Stake"
  | update => "Update"

def ofName? (s : String) : Option TxKind := all.find? (·.name == s)

end TxKind

end RedactableLedger
