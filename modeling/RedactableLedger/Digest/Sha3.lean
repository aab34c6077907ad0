import RedactableLedger.Octets

namespace RedactableLedger

namespace Sha3

/-- The permutation's state: lane `(x, y)` stands at `x + 5 * y`. -/
abbrev Lanes := Vector UInt64 25

namespace Lanes

def lane (s : Lanes) (x y : Fin 5) : UInt64 := s.get ⟨x + 5 * y, by omega⟩

def ofLanes (f : Fin 5 → Fin 5 → UInt64) : Lanes :=
  Vector.ofFn fun i => f ⟨i % 5, by omega⟩ ⟨i / 5, by omega⟩

end Lanes

open Lanes

def rotateLeft (w : UInt64) (n : UInt64) : UInt64 :=
  if n = 0 then w else (w <<< n) ||| (w >>> (64 - n))

def offsets : Lanes :=
  #v[0, 1, 62, 28, 27, 36, 44, 6, 55, 20, 3, 10, 43, 25, 39, 41, 45, 15, 21, 8, 18, 2,
    61, 56, 14]

/-- The constant that each round adds to the first lane. -/
def roundConstants : List UInt64 :=
  [0x0000000000000001, 0x0000000000008082, 0x800000000000808A, 0x8000000080008000,
   0x000000000000808B, 0x0000000080000001, 0x8000000080008081, 0x8000000000008009,
   0x000000000000008A, 0x0000000000000088, 0x0000000080008009, 0x000000008000000A,
   0x000000008000808B, 0x800000000000008B, 0x8000000000008089, 0x8000000000008003,
   0x8000000000008002, 0x8000000000000080, 0x000000000000800A, 0x800000008000000A,
   0x8000000080008081, 0x8000000000008080, 0x0000000080000001, 0x8000000080008008]

def mixColumns (s : Lanes) : Lanes :=
  let parity : Vector UInt64 5 := Vector.ofFn fun x =>
    s.lane x 0 ^^^ s.lane x 1 ^^^ s.lane x 2 ^^^ s.lane x 3 ^^^ s.lane x 4
  let added : Vector UInt64 5 := Vector.ofFn fun x =>
    parity.get (x + 4) ^^^ rotateLeft (parity.get (x + 1)) 1
  ofLanes fun x y => s.lane x y ^^^ added.get x

def scatter (s : Lanes) : Lanes :=
  ofLanes fun x y => rotateLeft (s.lane (x + 3 * y) x) (offsets.lane (x + 3 * y) x)

def combineRows (s : Lanes) : Lanes :=
  ofLanes fun x y => s.lane x y ^^^ (~~~ s.lane (x + 1) y &&& s.lane (x + 2) y)

def round (s : Lanes) (constant : UInt64) : Lanes :=
  let t := combineRows (scatter (mixColumns s))
  t.set 0 (t.lane 0 0 ^^^ constant)

def permute (s : Lanes) : Lanes := roundConstants.foldl round s

def rate : Nat := 136

def word (bytes : Bytes) : UInt64 :=
  bytes.foldr (fun b w => (w <<< 8) ||| b.toUInt64) 0

def absorbBlock (s : Lanes) (block : Bytes) : Lanes :=
  permute (ofLanes fun x y =>
    s.lane x y ^^^ word ((block.drop (8 * (x.val + 5 * y.val))).take 8))

/-- Fills the last block: the domain bits, zeros, and the closing bit. -/
def padBlock (rest : Bytes) : Bytes :=
  if rest.length + 1 = rate then rest ++ [0x86]
  else rest ++ 0x06 :: List.replicate (rate - 2 - rest.length) 0 ++ [0x80]

def absorb : Nat → Lanes → Bytes → Lanes
  | 0, s, rest => absorbBlock s (padBlock rest)
  | n + 1, s, bytes => absorb n (absorbBlock s (bytes.take rate)) (bytes.drop rate)

def blank : Lanes := Vector.replicate 25 0

def squeeze (s : Lanes) : Octets 32 :=
  Octets.ofNatLE 8 (s.lane 0 0).toNat ++ Octets.ofNatLE 8 (s.lane 1 0).toNat ++
    Octets.ofNatLE 8 (s.lane 2 0).toNat ++ Octets.ofNatLE 8 (s.lane 3 0).toNat

end Sha3

def sha3 (message : Bytes) : Octets 32 :=
  Sha3.squeeze (Sha3.absorb (message.length / Sha3.rate) Sha3.blank message)

end RedactableLedger
