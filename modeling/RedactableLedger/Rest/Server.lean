import RedactableLedger.Client
import RedactableLedger.Fee
import RedactableLedger.Json.Reader
import RedactableLedger.Rest.MediaType
import RedactableLedger.Rest.Metrics
import RedactableLedger.Rest.Response
import RedactableLedger.Rest.Route

namespace RedactableLedger

structure HttpRequest where
  method : String
  target : String
  contentType : Option String
  body : Bytes
deriving DecidableEq, Repr

inductive BodyFault where
  | mediaType
  | tooLong
  | record (fault : Json.RecordFault)
deriving DecidableEq, Repr

def BodyFault.message : BodyFault → String
  | mediaType => "Expected request with \x60Content-Type: application/json\x60"
  | tooLong => "Failed to buffer the request body: length limit exceeded"
  | record .unreadable => "Failed to parse the request body as JSON"
  | record .mismatch => "Failed to deserialize the JSON body into the target type"

def HttpRequest.maxLength : Nat := 2097152

def HttpRequest.record (r : HttpRequest) (fields : List (Json.Field α)) (defaults : α) :
    Except BodyFault α :=
  if ¬(r.contentType.map MediaType.isJson).getD false then .error .mediaType
  else if maxLength < r.body.length then .error .tooLong
  else ((Json.read r.body).toRecord fields defaults).mapError .record

/-- Asks for the creation of an account, of an address if one is given and else of a wallet. -/
structure AccountBody where
  header : UInt8 := 0
  fee : UInt64 := 0
  rootWallet : String := ""
  wallet : String := ""
  address : String := ""
  params : String := ""
  data : String := ""
deriving DecidableEq

namespace AccountBody

def fields : List (Json.Field AccountBody) :=
  [.byte "header" (·.header) fun v a => { a with header := v },
    .long "fee" (·.fee) fun v a => { a with fee := v },
    .text "root_wallet" (·.rootWallet) fun v a => { a with rootWallet := v },
    .text "wallet" (·.wallet) fun v a => { a with wallet := v },
    .text "address" (·.address) fun v a => { a with address := v },
    .text "chparams" (·.params) fun v a => { a with params := v },
    .text "data" (·.data) fun v a => { a with data := v }]

def preparation (a : AccountBody) : Preparation :=
  if a.address = "" then
    .createAccount ⟨a.header, Fee.coerce a.fee, a.rootWallet, a.wallet, a.params, a.data⟩
  else .addAccount ⟨a.header, Fee.coerce a.fee, a.rootWallet, a.address, a.params, a.data⟩

end AccountBody

structure SignatureBody where
  hash : String := ""
  signature : String := ""
  cosignature : Option String := none
deriving DecidableEq

namespace SignatureBody

def fields : List (Json.Field SignatureBody) :=
  [.text "hash" (·.hash) fun v a => { a with hash := v },
    .text "signature" (·.signature) fun v a => { a with signature := v },
    .optionalText "cosignature" (·.cosignature) fun v a => { a with cosignature := v }]

def cosigner (a : SignatureBody) : Outcome (Option Signature) :=
  match (a.cosignature.map Text.trim).filter (· ≠ "") with
  | none => .ok none
  | some s => some <$> Signature.ofHex s

def decode (a : SignatureBody) : Outcome (TxHash × Signature × Option Signature) := do
  if a.hash = "" then throw (.missing "hash")
  if a.signature = "" then throw (.missing "signature")
  let hash ← txHashOfHex (Text.trim a.hash)
  let primary ← Signature.ofHex (Text.trim a.signature)
  return (hash, primary, ← a.cosigner)

end SignatureBody

structure Server where
  client : Client
  metrics : Metrics

namespace Server

def version : String := "0.1.0"

def count (f : Metrics → Metrics) : StateM Server Unit :=
  modify fun s => { s with metrics := f s.metrics }

def attempt (a : Action Client α) : StateM Server (Outcome α) := fun s =>
  let (r, client) := a.exec s.client
  (r, { s with client })

def answer (a : Action Client α) (f : α → StateM Server HttpResponse) :
    StateM Server HttpResponse := do
  match ← attempt a with
  | .ok x => f x
  | .error e => return .fault e

def preparedResponse (p : Prepared) : StateM Server HttpResponse := do
  count (·.countPrepared p.tx.kind)
  return .json 200 (p.tx.kind.name ++ " successfully created. Sign the provided hash.")
    [⟨"Transaction", p.hash.toHex⟩]

def prepare (request : Preparation) : StateM Server HttpResponse :=
  answer (Client.onLedger request.run) preparedResponse

/-- Prepares a transaction that redacts another one, which takes a while. -/
def prepareRedaction (request : Preparation) : StateM Server HttpResponse := do
  modify fun s => { s with client := s.client.rest }
  let r ← attempt (Client.onLedger request.run)
  count Metrics.countTimed
  match r with
  | .ok p =>
    count Metrics.countRedacted
    preparedResponse p
  | .error e => return .fault e

def acceptSignature (a : SignatureBody) : StateM Server HttpResponse := do
  match a.decode with
  | .error e => return .fault e
  | .ok (hash, primary, cosigner) =>
    match ← attempt (Client.onLedger (Ledger.attachAndSubmit hash primary cosigner)) with
    | .ok _ =>
      count Metrics.countSubmitted
      return .json 200 "Tx successfully sent to network." [⟨"Transaction", hash.toHex⟩]
    | .error e =>
      if e.kind = .transport then count Metrics.countSubmissionFailure
      return .fault e

def transactionContent (hash : TxHash) (tx : Transaction) : List NamedValue :=
  [⟨"Transaction", hash.toHex⟩, ⟨"Kind", tx.kind.name⟩, ⟨"Header", toString tx.header.toNat⟩,
      ⟨"Fee", toString tx.fee.toNat⟩, ⟨"Data", Hex.encode tx.data⟩] ++
    (tx.checkString.map fun cs => ⟨"CheckString", cs.toHex⟩).toList ++
    [⟨"Signed", toString tx.isSigned⟩] ++
    (if tx.sig2.isEmpty then [] else [⟨"Cosigned", "true"⟩])

def showTransaction (name : String) : StateM Server HttpResponse :=
  answer (Client.onLedger do
    let hash ← Action.lift (txHashOfHex (Text.trim name))
    let tx ← Action.query fun l => l.store.load hash
    return (hash, tx)) fun (hash, tx) =>
    return .json 200 "Transaction found." (transactionContent hash tx)

def accountContent (view : AccountView) : List NamedValue :=
  [⟨"Address", view.account.address.toHex⟩, ⟨"Balance", toString view.account.balance.toNat⟩,
      ⟨"TxCount", toString view.account.txCount.toNat⟩,
      ⟨"IsRoot", toString view.account.isRoot⟩,
      ⟨"IsStaking", toString view.account.isStaking⟩] ++
    view.recent.map fun h => ⟨"Tx", h.toHex⟩

def showAccount (name : String) : StateM Server HttpResponse :=
  answer (do
    let address ← Action.lift (Address.ofHex (Text.trim name))
    Client.getAccount address) fun
    | some view => return .json 200 "Account found." (accountContent view)
    | none => return .json 404 "Account does not exist." []

def health (now : String) : StateM Server HttpResponse := do
  let s ← get
  return .json 200 "ok"
    [⟨"Version", version⟩,
      ⟨"StagedTransactions", toString s.client.ledger.store.transactionCount⟩, ⟨"Time", now⟩]

def publish : StateM Server HttpResponse := do
  return ⟨200, some "text/plain; version=0.0.4; charset=utf-8", .text (← get).metrics.text⟩

def withRecord (r : HttpRequest) (fields : List (Json.Field α)) (defaults : α)
    (f : α → StateM Server HttpResponse) : StateM Server HttpResponse :=
  match r.record fields defaults with
  | .ok a => f a
  | .error e => return .json 400 e.message []

def withName (label name : String) (f : String → StateM Server HttpResponse) :
    StateM Server HttpResponse :=
  match Route.decodeName name with
  | some text => f text
  | none => return .plain 400 ("Invalid URL: Invalid UTF-8 in \x60" ++ label ++ "\x60")

def serve (now : String) (r : HttpRequest) : Route → StateM Server HttpResponse
  | .health => health now
  | .metrics => publish
  | .account => withRecord r AccountBody.fields {} fun a => prepare a.preparation
  | .funds =>
    withRecord r TransferFunds.fields {} fun a =>
      prepare (.transferFunds { a with fee := Fee.coerce a.fee })
  | .config =>
    withRecord r ChangeConfig.fields {} fun a =>
      prepare (.changeConfig { a with fee := Fee.coerce a.fee })
  | .stake =>
    withRecord r SetStaking.fields {} fun a =>
      prepare (.setStaking { a with fee := Fee.coerce a.fee })
  | .update =>
    withRecord r UpdateData.fields {} fun a =>
      prepareRedaction (.updateData { a with fee := Fee.coerce a.fee })
  | .delete =>
    withRecord r DeleteData.fields {} fun a =>
      prepareRedaction (.deleteData { a with fee := Fee.coerce a.fee })
  | .signature => withRecord r SignatureBody.fields {} acceptSignature
  | .transaction name => withName "hash" name showTransaction
  | .accountView name => withName "address" name showAccount

/-- Answers a request. A preflight succeeds on every path, and HEAD is GET without the body. -/
def handle (now : String) (r : HttpRequest) : StateM Server HttpResponse := do
  if r.method = "OPTIONS" then return .bare 200
  match Route.ofPath? (Route.pathOf r.target) with
  | none => return .bare 404
  | some route =>
    match route.method, r.method with
    | .get, "GET" => serve now r route
    | .get, "HEAD" => return (← serve now r route).headers
    | .post, "POST" => serve now r route
    | _, _ => return .bare 405

def handleAll (now : String) : List HttpRequest → StateM Server (List HttpResponse)
  | [] => return []
  | r :: rest => do
    let first ← handle now r
    return first :: (← handleAll now rest)

end Server

end RedactableLedger
