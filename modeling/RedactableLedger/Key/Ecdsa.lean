import RedactableLedger.Digest.Sha256
import RedactableLedger.Key.Basic
import RedactableLedger.Signature

namespace RedactableLedger

namespace Ecdsa

open Secp256k1

structure NonceState where
  key : Octets 32
  value : Octets 32

namespace NonceState

def mix (s : NonceState) (marker : UInt8) (extra : Bytes) : NonceState :=
  let key := hmac s.key.bytes (s.value.bytes ++ marker :: extra)
  ⟨key, hmac key.bytes s.value.bytes⟩

def seed (secret : Octets 32) (digest : Octets 32) : NonceState :=
  let extra := secret.bytes ++ digest.bytes
  let start : NonceState := ⟨Octets.zero 32, ⟨List.replicate 32 1, List.length_replicate⟩⟩
  (start.mix 0 extra).mix 1 extra

def next? : Nat → NonceState → Option Scalar
  | 0, _ => none
  | n + 1, s =>
    let value := hmac s.key.bytes s.value.bytes
    match scalarOf? value with
    | some k => some k
    | none => next? n (NonceState.mix ⟨s.key, value⟩ 0 [])

end NonceState

/-- How many nonces are tried; that a first one fails has probability below `2 ^ -127`. -/
def nonceAttempts : Nat := 64

def digestScalar (digest : Digest) : Scalar := Fin.ofNat groupOrder digest.toNatBE

def nonce? (secret : Scalar) (digest : Digest) : Option Scalar :=
  (NonceState.seed (Octets.ofNatBE 32 secret.val)
    digest).next? nonceAttempts

def abscissa : GroupPoint → Scalar
  | .infinity => 0
  | .affine x _ => Fin.ofNat groupOrder x.val

def isHigh (s : Scalar) : Bool := decide ((-s).val < s.val)

def numbers (secret k : Scalar) (digest : Digest) : Scalar × Scalar :=
  let r := abscissa (base.mul k.val)
  let s := Field.inv k * (digestScalar digest + r * secret)
  (r, if isHigh s then -s else s)

def signUnder (key : PrivateKey) (digest : Digest) (k : Scalar) :
    Except CryptoFault Signature :=
  let (r, s) := numbers key.secret k digest
  if r = 0 ∨ s = 0 then .error .signing
  else .ok ⟨Octets.ofNatBE 32 r.val ++ Octets.ofNatBE 32 s.val⟩

def sign (key : PrivateKey) (digest : Digest) : Except CryptoFault Signature :=
  (nonce? key.secret digest).elim (.error .signing) (signUnder key digest)

def numbers? (signature : Signature) : Option (Scalar × Scalar) :=
  let bytes := signature.octets.bytes
  match scalarOf? (Octets.ofNatBE 32 (Bytes.toNatBE (bytes.take 32))),
    scalarOf? (Octets.ofNatBE 32 (Bytes.toNatBE (bytes.drop 32))) with
  | some r, some s => some (r, s)
  | _, _ => none

def verify (key : PublicKey) (digest : Digest) (signature : Signature) : Bool :=
  match numbers? signature with
  | none => false
  | some (r, s) =>
    if isHigh s then false
    else
      let w := Field.inv s
      let point := base.mul (digestScalar digest * w).val + key.point.mul (r * w).val
      match point with
      | .infinity => false
      | .affine x _ => Fin.ofNat groupOrder x.val = r

end Ecdsa

end RedactableLedger
