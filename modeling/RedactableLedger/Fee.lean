namespace RedactableLedger

namespace Fee

def minimum : UInt64 := 1

def coerce (fee : UInt64) : UInt64 := if fee = 0 then minimum else fee

end Fee

end RedactableLedger
