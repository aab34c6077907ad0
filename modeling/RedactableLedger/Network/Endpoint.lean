import RedactableLedger.Fault
import RedactableLedger.Text.Decimal

namespace RedactableLedger

namespace Endpoint

def splitLast : List Char → Option (List Char × List Char)
  | [] => none
  | c :: rest =>
    match splitLast rest with
    | some (host, port) => some (c :: host, port)
    | none => if c = ':' then some ([], rest) else none

def port? (cs : List Char) : Option UInt16 :=
  let digits := match cs with
    | '+' :: rest => rest
    | cs => cs
  match Decimal.value? digits with
  | some n => if n < UInt16.size then some (UInt16.ofNat n) else none
  | none => none

def parse (endpoint : String) : Except EndpointFault (String × UInt16) :=
  match splitLast endpoint.toList with
  | none => .error .noPort
  | some (host, port) =>
    match port? port with
    | some n => .ok (String.ofList host, n)
    | none => .error .badPort

/-- Why nothing can be sent to an endpoint, whatever the network does. -/
def fault? (endpoint : String) : Option TransportFault :=
  match parse endpoint with
  | .error e => some (.unreachable endpoint e)
  | .ok _ => none

end Endpoint

end RedactableLedger
