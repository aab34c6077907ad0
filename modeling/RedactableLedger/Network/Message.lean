import RedactableLedger.Transaction.Kind

namespace RedactableLedger

inductive MessageType where
  | broadcast (kind : TxKind)
  | accountRequest
  | rootAccountRequest
  | accountResponse
  | notFound
deriving DecidableEq, Repr

namespace MessageType

def request (root : Bool) : MessageType := if root then rootAccountRequest else accountRequest

def code : MessageType → UInt8
  | broadcast kind => kind.code
  | accountRequest => 30
  | rootAccountRequest => 31
  | accountResponse => 40
  | notFound => 110

/-- The type that a byte stands for; a byte without one counts as "not found". -/
def ofCode (b : UInt8) : MessageType :=
  match TxKind.ofCode? b with
  | some kind => broadcast kind
  | none =>
    if b = 30 then accountRequest
    else if b = 31 then rootAccountRequest
    else if b = 40 then accountResponse
    else notFound

theorem ofCode_code (t : MessageType) : ofCode t.code = t := by
  cases t with
  | broadcast kind => cases kind <;> decide
  | _ => decide

def isBroadcast : MessageType → Bool
  | broadcast _ => true
  | _ => false

def name : MessageType → String
  | broadcast .accountCreation => "ACCTX_BRDCST"
  | broadcast .fundsTransfer => "FUNDSTX_BRDCST"
  | broadcast .config => "CONFIGTX_BRDCST"
  | broadcast .stake => "STAKETX_BRDCST"
  | broadcast .update => "UPDATETX_BRDCST"
  | accountRequest => "ACC_REQ"
  | rootAccountRequest => "ROOTACC_REQ"
  | accountResponse => "ACC_RES"
  | notFound => "NOT_FOUND"

end MessageType

end RedactableLedger
