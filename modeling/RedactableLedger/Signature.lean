import RedactableLedger.Fault

namespace RedactableLedger

structure Signature where
  octets : Octets 64
deriving DecidableEq

namespace Signature

def empty : Signature := ⟨Octets.zero 64⟩

instance : Inhabited Signature := ⟨empty⟩

def isEmpty (s : Signature) : Bool := s == empty

def ofHex (s : String) : Outcome Signature :=
  match decodeField 64 s "signature" with
  | .ok octets => .ok ⟨octets⟩
  | .error m => .error (.decoding m)

def toHex (s : Signature) : String := s.octets.toHex

def brief (s : Signature) : String :=
  if s.isEmpty then "Signature(empty)" else "Signature(" ++ abbreviated s.toHex ++ ")"

end Signature

end RedactableLedger
