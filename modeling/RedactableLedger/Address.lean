import RedactableLedger.Digest.Sha3
import RedactableLedger.Fault

namespace RedactableLedger

structure Address where
  octets : Octets 64
deriving DecidableEq

namespace Address

def zero : Address := ⟨Octets.zero 64⟩

instance : Inhabited Address := ⟨zero⟩

def hexLength : Nat := 128

/-- Reads the hexadecimal form; a wrong length is refused before the digits are looked at. -/
def ofHex (s : String) : Outcome Address :=
  if s.utf8ByteSize = hexLength then
    match decodeField 64 s "Address" with
    | .ok octets => .ok ⟨octets⟩
    | .error m => .error (.decoding m)
  else .error (.validation .addressLength)

def toHex (a : Address) : String := a.octets.toHex

def digest (a : Address) : Digest := sha3 a.octets.bytes

def isZero (a : Address) : Bool := a == zero

end Address

def Address.brief (a : Address) : String := "Address(" ++ abbreviated a.toHex ++ ")"

end RedactableLedger
