import RedactableLedger.Address
import RedactableLedger.Json.Record
import RedactableLedger.Text.Blank

namespace RedactableLedger

def requireText (value name : String) : Outcome Unit :=
  if Text.isBlankText value then .error (.missing name) else .ok ()

structure CreateAccount where
  header : UInt8 := 0
  fee : UInt64 := 0
  rootWallet : String := ""
  wallet : String := ""
  params : String := ""
  data : String := ""
deriving DecidableEq

namespace CreateAccount

def fields : List (Json.Field CreateAccount) :=
  [.byte "header" (·.header) fun v a => { a with header := v },
    .long "fee" (·.fee) fun v a => { a with fee := v },
    .text "root_wallet" (·.rootWallet) fun v a => { a with rootWallet := v },
    .text "wallet" (·.wallet) fun v a => { a with wallet := v },
    .text "chparams" (·.params) fun v a => { a with params := v },
    .text "data" (·.data) fun v a => { a with data := v }]

def validate (a : CreateAccount) : Outcome Unit := do
  requirePositiveFee a.fee
  requireText a.rootWallet "rootwallet"
  requireText a.wallet "wallet"
  requireText a.params "chparams"

end CreateAccount

structure AddAccount where
  header : UInt8 := 0
  fee : UInt64 := 0
  rootWallet : String := ""
  address : String := ""
  params : String := ""
  data : String := ""
deriving DecidableEq

namespace AddAccount

def fields : List (Json.Field AddAccount) :=
  [.byte "header" (·.header) fun v a => { a with header := v },
    .long "fee" (·.fee) fun v a => { a with fee := v },
    .text "root_wallet" (·.rootWallet) fun v a => { a with rootWallet := v },
    .text "address" (·.address) fun v a => { a with address := v },
    .text "chparams" (·.params) fun v a => { a with params := v },
    .text "data" (·.data) fun v a => { a with data := v }]

def validate (a : AddAccount) : Outcome Unit := do
  requirePositiveFee a.fee
  requireText a.rootWallet "rootwallet"
  requireText a.address "Address"
  if a.address.utf8ByteSize ≠ Address.hexLength then throw (.validation .addressLength)
  requireText a.params "chparams"

end AddAccount

structure CheckAccount where
  address : String := ""
  wallet : String := ""
deriving DecidableEq

namespace CheckAccount

def fields : List (Json.Field CheckAccount) :=
  [.text "address" (·.address) fun v a => { a with address := v },
    .text "wallet" (·.wallet) fun v a => { a with wallet := v }]

def validate (a : CheckAccount) : Outcome Unit := do
  if a.address = "" ∧ a.wallet = "" then throw (.missing "Address or wallet")
  if a.wallet = "" ∧ a.address.utf8ByteSize ≠ Address.hexLength then
    throw (.validation (.badAddress "Address"))

end CheckAccount

structure TransferFunds where
  header : UInt8 := 0
  source : String := ""
  target : String := ""
  targetAddress : String := ""
  multisig : String := ""
  params : String := ""
  amount : UInt64 := 0
  fee : UInt64 := 0
  txCount : UInt32 := 0
  data : String := ""
deriving DecidableEq

namespace TransferFunds

def fields : List (Json.Field TransferFunds) :=
  [.byte "header" (·.header) fun v a => { a with header := v },
    .text "from" (·.source) fun v a => { a with source := v },
    .text "to" (·.target) fun v a => { a with target := v },
    .text "to_address" (·.targetAddress) fun v a => { a with targetAddress := v },
    .text "multisig" (·.multisig) fun v a => { a with multisig := v },
    .text "chparams" (·.params) fun v a => { a with params := v },
    .long "amount" (·.amount) fun v a => { a with amount := v },
    .long "fee" (·.fee) fun v a => { a with fee := v },
    .word "tx_count" (·.txCount) fun v a => { a with txCount := v },
    .text "data" (·.data) fun v a => { a with data := v }]

def validate (a : TransferFunds) : Outcome Unit := do
  requireText a.source "from"
  if a.target = "" ∧ a.targetAddress = "" then throw (.missing "to or to_address")
  if a.target = "" ∧ a.targetAddress.utf8ByteSize ≠ Address.hexLength then
    throw (.validation (.badAddress "ToAddress"))
  requirePositiveFee a.fee
  if a.amount = 0 then throw (.validation .amountNotPositive)
  requireText a.params "chparams"

end TransferFunds

inductive ConfigOption where
  | blockSize
  | difficultyInterval
  | minimumFee
  | blockInterval
  | blockReward
deriving DecidableEq, Repr

namespace ConfigOption

def all : List ConfigOption :=
  [blockSize, difficultyInterval, minimumFee, blockInterval, blockReward]

def id : ConfigOption → UInt8
  | blockSize => 1
  | difficultyInterval => 2
  | minimumFee => 3
  | blockInterval => 4
  | blockReward => 5

def ofId? (n : UInt8) : Option ConfigOption := all.find? (·.id == n)

def name : ConfigOption → String
  | blockSize => "setBlockSize"
  | difficultyInterval => "setDifficultyInterval"
  | minimumFee => "setMinimumFee"
  | blockInterval => "setBlockInterval"
  | blockReward => "setBlockReward"

end ConfigOption

structure ChangeConfig where
  header : UInt8 := 0
  fee : UInt64 := 0
  txCount : UInt32 := 0
  rootWallet : String := ""
  option : UInt8 := 0
  payload : UInt64 := 0
deriving DecidableEq

namespace ChangeConfig

def fields : List (Json.Field ChangeConfig) :=
  [.byte "header" (·.header) fun v a => { a with header := v },
    .long "fee" (·.fee) fun v a => { a with fee := v },
    .word "tx_count" (·.txCount) fun v a => { a with txCount := v },
    .text "root_wallet" (·.rootWallet) fun v a => { a with rootWallet := v },
    .byte "option_id" (·.option) fun v a => { a with option := v },
    .long "payload" (·.payload) fun v a => { a with payload := v }]

def validate (a : ChangeConfig) : Outcome Unit := do
  requirePositiveFee a.fee
  requireText a.rootWallet "rootwallet"
  if (ConfigOption.ofId? a.option).isNone then
    throw (.validation (.unknownOption a.option.toNat))

end ChangeConfig

structure SetStaking where
  header : UInt8 := 0
  fee : UInt64 := 0
  wallet : String := ""
  commitment : String := ""
  staking : Bool := false
deriving DecidableEq

namespace SetStaking

def fields : List (Json.Field SetStaking) :=
  [.byte "header" (·.header) fun v a => { a with header := v },
    .long "fee" (·.fee) fun v a => { a with fee := v },
    .text "wallet" (·.wallet) fun v a => { a with wallet := v },
    .text "commitment" (·.commitment) fun v a => { a with commitment := v },
    .flag "staking" (·.staking) fun v a => { a with staking := v }]

def validate (a : SetStaking) : Outcome Unit := do
  requirePositiveFee a.fee
  requireText a.wallet "wallet"
  if a.staking && Text.isBlankText a.commitment then throw (.missing "Commitment")

end SetStaking

structure UpdateData where
  header : UInt8 := 0
  fee : UInt64 := 0
  txHash : String := ""
  issuer : String := ""
  params : String := ""
  newData : String := ""
  data : String := ""
deriving DecidableEq

namespace UpdateData

def fields : List (Json.Field UpdateData) :=
  [.byte "header" (·.header) fun v a => { a with header := v },
    .long "fee" (·.fee) fun v a => { a with fee := v },
    .text "tx_hash" (·.txHash) fun v a => { a with txHash := v },
    .text "tx_issuer" (·.issuer) fun v a => { a with issuer := v },
    .text "chparams" (·.params) fun v a => { a with params := v },
    .text "update_data" (·.newData) fun v a => { a with newData := v },
    .text "data" (·.data) fun v a => { a with data := v }]

def validate (a : UpdateData) : Outcome Unit := do
  requireText a.txHash "txHash"
  requireText a.issuer "txIssuer"
  requireText a.params "ch_params"
  requirePositiveFee a.fee

end UpdateData

structure DeleteData where
  header : UInt8 := 0
  fee : UInt64 := 0
  txHash : String := ""
  issuer : String := ""
  params : String := ""
  data : String := ""
deriving DecidableEq

namespace DeleteData

def fields : List (Json.Field DeleteData) :=
  [.byte "header" (·.header) fun v a => { a with header := v },
    .long "fee" (·.fee) fun v a => { a with fee := v },
    .text "tx_hash" (·.txHash) fun v a => { a with txHash := v },
    .text "tx_issuer" (·.issuer) fun v a => { a with issuer := v },
    .text "chparams" (·.params) fun v a => { a with params := v },
    .text "data" (·.data) fun v a => { a with data := v }]

def asUpdate (a : DeleteData) : UpdateData where
  header := a.header
  fee := a.fee
  txHash := a.txHash
  issuer := a.issuer
  params := a.params
  newData := ""
  data := a.data

def validate (a : DeleteData) : Outcome Unit := a.asUpdate.validate

end DeleteData

end RedactableLedger
