import RedactableLedger.Fault
import RedactableLedger.Json.Basic

namespace RedactableLedger

structure NamedValue where
  name : String
  detail : String
deriving DecidableEq, Repr

structure Envelope where
  message : String
  content : List NamedValue
deriving DecidableEq, Repr

inductive ResponseBody where
  | envelope (e : Envelope)
  | text (s : String)
deriving DecidableEq, Repr

structure HttpResponse where
  status : Nat
  contentType : Option String
  body : ResponseBody
deriving DecidableEq, Repr

def Fault.Kind.status : Fault.Kind → Nat
  | .validation | .decoding | .resolution => 400
  | .notFound => 404
  | .transport => 502
  | .timeout => 504
  | .cancelled => 503
  | .crypto | .storage => 500

def Envelope.toJson (e : Envelope) (status : Nat) : Json :=
  .object
    [("code", .integer status), ("message", .string e.message),
      ("content", .array (e.content.map fun v =>
        .object [("name", .string v.name), ("detail", .string v.detail)]))]

namespace HttpResponse

def json (status : Nat) (message : String) (content : List NamedValue) : HttpResponse :=
  ⟨status, some "application/json", .envelope ⟨message, content⟩⟩

def plain (status : Nat) (text : String) : HttpResponse :=
  ⟨status, some "text/plain; charset=utf-8", .text text⟩

def bare (status : Nat) : HttpResponse := ⟨status, none, .text ""⟩

def fault (f : Fault) : HttpResponse := json f.kind.status f.message []

def headers (r : HttpResponse) : HttpResponse := { r with body := .text "" }

def bodyText (r : HttpResponse) : String :=
  match r.body with
  | .envelope e => (e.toJson r.status).render
  | .text s => s

end HttpResponse

end RedactableLedger
