import RedactableLedger.Address
import RedactableLedger.Draws

namespace RedactableLedger

structure PublicKey where
  point : Secp256k1.GroupPoint
deriving DecidableEq

namespace PublicKey

def ofFields (x y : String) : Except Malformation PublicKey := do
  let x ← decodeField 32 x "X"
  let y ← decodeField 32 y "Y"
  match Secp256k1.pointOf? x y with
  | some point => return ⟨point⟩
  | none => throw .keyOffCurve

def coordinates (key : PublicKey) : Octets 32 × Octets 32 :=
  match key.point with
  | .infinity => (Octets.zero 32, Octets.zero 32)
  | .affine x y => (Octets.ofNatBE 32 x.val, Octets.ofNatBE 32 y.val)

def address (key : PublicKey) : Address :=
  ⟨key.coordinates.1 ++ key.coordinates.2⟩

def toFields (key : PublicKey) : List String :=
  [key.coordinates.1.toHex, key.coordinates.2.toHex]

def ofSecret (secret : Secp256k1.Scalar) : PublicKey := ⟨Secp256k1.base.mul secret.val⟩

def brief (key : PublicKey) : String := "PublicKey(" ++ key.address.brief ++ ")"

end PublicKey

structure PrivateKey where
  secret : Secp256k1.Scalar
  publicKey : PublicKey
  publicKey_eq : publicKey = PublicKey.ofSecret secret
deriving DecidableEq

namespace PrivateKey

def ofSecret (secret : Secp256k1.Scalar) : PrivateKey :=
  ⟨secret, PublicKey.ofSecret secret, rfl⟩

def ofFields (x y d : String) : Except Malformation PrivateKey := do
  let expected ← PublicKey.ofFields x y
  let d ← decodeField 32 d "D"
  match Secp256k1.scalarOf? d with
  | none => throw .secretOutOfRange
  | some secret =>
    let key := ofSecret secret
    if key.publicKey = expected then return key else throw .keyMismatch

def generate : StateM Draws PrivateKey := ofSecret <$> Draws.secret

def address (key : PrivateKey) : Address := key.publicKey.address

def toFields (key : PrivateKey) : List String :=
  key.publicKey.toFields ++ [(Octets.ofNatBE 32 key.secret.val).toHex]

def brief (key : PrivateKey) : String :=
  "PrivateKey \x7b address: " ++ key.address.brief ++ ", .. \x7d"

end PrivateKey

end RedactableLedger
