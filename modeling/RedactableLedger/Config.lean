import RedactableLedger.Files
import RedactableLedger.Toml.Reader

namespace RedactableLedger

structure Config where
  bootstrap : String := "127.0.0.1:8000"
  restPort : UInt16 := 8010
  store : String := "client.db"
  requestTimeout : UInt64 := 10000
  connectTimeout : UInt64 := 5000
deriving DecidableEq, Repr

namespace Config

def text? : Toml → Option String
  | .string s => some s
  | _ => none

def natural? (bound : Nat) : Toml → Option Nat
  | .integer i => if 0 ≤ i ∧ i < bound then some i.toNat else none
  | _ => none

/-- The settings with one more of a file; settings of other names are passed over. -/
def put (c : Config) (name : String) (v : Toml) : Option Config :=
  match name with
  | "bootstrap_endpoint" => (text? v).map fun s => { c with bootstrap := s }
  | "rest_port" => (natural? UInt16.size v).map fun n => { c with restPort := UInt16.ofNat n }
  | "db_path" => (text? v).map fun s => { c with store := s }
  | "request_timeout_ms" =>
    (natural? UInt64.size v).map fun n => { c with requestTimeout := UInt64.ofNat n }
  | "connect_timeout_ms" =>
    (natural? UInt64.size v).map fun n => { c with connectTimeout := UInt64.ofNat n }
  | _ => some c

def ofMembers (ms : Toml.Members) : Option Config :=
  ms.foldlM (fun c m => put c m.1 m.2) {}

def ofText (s : String) : Outcome Config :=
  match (Toml.read s).bind ofMembers with
  | some c => .ok c
  | none => .error (.resolution .configContent)

def load (files : Files) (path : String) : Outcome Config :=
  match files.readText path with
  | .error e => .error (.resolution (.configAccess path e))
  | .ok s => ofText s

end Config

end RedactableLedger
