import RedactableLedger.Digest.Sha3

namespace RedactableLedger

namespace Sha3

open Lanes

theorem forall_lanes {P : Lanes → Prop}
    (h : ∀ a0 a1 a2 a3 a4 b0 b1 b2 b3 b4 c0 c1 c2 c3 c4 d0 d1 d2 d3 d4 e0 e1 e2 e3 e4 : UInt64,
      P #v[a0, a1, a2, a3, a4, b0, b1, b2, b3, b4, c0, c1, c2, c3, c4, d0, d1, d2, d3, d4, e0,
        e1, e2, e3, e4])
    (s : Lanes) : P s := by
  obtain ⟨⟨lanes⟩, hlength⟩ := s
  match lanes, hlength with
  | [a0, a1, a2, a3, a4, b0, b1, b2, b3, b4, c0, c1, c2, c3, c4, d0, d1, d2, d3, d4, e0, e1, e2,
      e3, e4], _ => exact h ..

theorem toList_ofLanes (f : Fin 5 → Fin 5 → UInt64) : (ofLanes f).toList =
    [f 0 0, f 1 0, f 2 0, f 3 0, f 4 0, f 0 1, f 1 1, f 2 1, f 3 1, f 4 1, f 0 2, f 1 2, f 2 2,
      f 3 2, f 4 2, f 0 3, f 1 3, f 2 3, f 3 3, f 4 3, f 0 4, f 1 4, f 2 4, f 3 4, f 4 4] := by
  rw [ofLanes, Vector.toList_ofFn]
  rfl

theorem get_ofFn {n : Nat} (f : Fin n → UInt64) (i : Fin n) :
    (Vector.ofFn f).get i = f i := Vector.getElem_ofFn i.isLt

def mixList : List UInt64 → List UInt64
  | [a0, a1, a2, a3, a4, b0, b1, b2, b3, b4, c0, c1, c2, c3, c4, d0, d1, d2, d3, d4, e0, e1, e2,
      e3, e4] =>
    -- the parities and what they add are bound as arguments, so that each is evaluated once
    (fun p0 p1 p2 p3 p4 =>
      (fun m0 m1 m2 m3 m4 =>
        [a0 ^^^ m0, a1 ^^^ m1, a2 ^^^ m2, a3 ^^^ m3, a4 ^^^ m4, b0 ^^^ m0, b1 ^^^ m1, b2 ^^^ m2,
          b3 ^^^ m3, b4 ^^^ m4, c0 ^^^ m0, c1 ^^^ m1, c2 ^^^ m2, c3 ^^^ m3, c4 ^^^ m4,
          d0 ^^^ m0, d1 ^^^ m1, d2 ^^^ m2, d3 ^^^ m3, d4 ^^^ m4, e0 ^^^ m0, e1 ^^^ m1,
          e2 ^^^ m2, e3 ^^^ m3, e4 ^^^ m4])
        (p4 ^^^ rotateLeft p1 1) (p0 ^^^ rotateLeft p2 1) (p1 ^^^ rotateLeft p3 1)
        (p2 ^^^ rotateLeft p4 1) (p3 ^^^ rotateLeft p0 1))
      (a0 ^^^ b0 ^^^ c0 ^^^ d0 ^^^ e0) (a1 ^^^ b1 ^^^ c1 ^^^ d1 ^^^ e1)
      (a2 ^^^ b2 ^^^ c2 ^^^ d2 ^^^ e2) (a3 ^^^ b3 ^^^ c3 ^^^ d3 ^^^ e3)
      (a4 ^^^ b4 ^^^ c4 ^^^ d4 ^^^ e4)
  | s => s

theorem toList_mixColumns (s : Lanes) : (mixColumns s).toList = mixList s.toList := by
  induction s using forall_lanes
  simp only [mixColumns, toList_ofLanes, get_ofFn]
  rfl

def scatterList : List UInt64 → List UInt64
  | [a0, a1, a2, a3, a4, b0, b1, b2, b3, b4, c0, c1, c2, c3, c4, d0, d1, d2, d3, d4, e0, e1, e2,
      e3, e4] =>
    [rotateLeft a0 0, rotateLeft b1 44, rotateLeft c2 43, rotateLeft d3 21, rotateLeft e4 14,
      rotateLeft a3 28, rotateLeft b4 20, rotateLeft c0 3, rotateLeft d1 45, rotateLeft e2 61,
      rotateLeft a1 1, rotateLeft b2 6, rotateLeft c3 25, rotateLeft d4 8, rotateLeft e0 18,
      rotateLeft a4 27, rotateLeft b0 36, rotateLeft c1 10, rotateLeft d2 15, rotateLeft e3 56,
      rotateLeft a2 62, rotateLeft b3 55, rotateLeft c4 39, rotateLeft d0 41, rotateLeft e1 2]
  | s => s

theorem toList_scatter (s : Lanes) : (scatter s).toList = scatterList s.toList := by
  induction s using forall_lanes
  rw [scatter, toList_ofLanes]
  rfl

def combineList : List UInt64 → List UInt64
  | a :: b :: c :: d :: e :: rest =>
    (a ^^^ (~~~ b &&& c)) :: (b ^^^ (~~~ c &&& d)) :: (c ^^^ (~~~ d &&& e)) ::
      (d ^^^ (~~~ e &&& a)) :: (e ^^^ (~~~ a &&& b)) :: combineList rest
  | s => s

theorem toList_combineRows (s : Lanes) : (combineRows s).toList = combineList s.toList := by
  induction s using forall_lanes
  rw [combineRows, toList_ofLanes]
  rfl

def roundList (s : List UInt64) (constant : UInt64) : List UInt64 :=
  match combineList (scatterList (mixList s)) with
  | first :: rest => (first ^^^ constant) :: rest
  | [] => []

theorem toList_round (s : Lanes) (constant : UInt64) :
    (round s constant).toList = roundList s.toList constant := by
  rw [roundList, ← toList_mixColumns, ← toList_scatter, ← toList_combineRows, round]
  generalize combineRows (scatter (mixColumns s)) = t
  obtain ⟨⟨lanes⟩, hlength⟩ := t
  cases lanes with
  | nil => cases hlength
  | cons first rest => rfl

def permuteList (s : List UInt64) : List UInt64 := roundConstants.foldl roundList s

theorem toList_permute (s : Lanes) : (permute s).toList = permuteList s.toList := by
  rw [permute, permuteList]
  induction roundConstants generalizing s with
  | nil => rfl
  | cons constant constants ih => rw [List.foldl_cons, List.foldl_cons, ih, toList_round]

def absorbBlockList (s : List UInt64) (block : Bytes) : List UInt64 :=
  permuteList (List.zipWith (· ^^^ ·) s
    ((List.range 25).map fun i => word ((block.drop (8 * i)).take 8)))

theorem toList_absorbBlock (s : Lanes) (block : Bytes) :
    (absorbBlock s block).toList = absorbBlockList s.toList block := by
  rw [absorbBlock, toList_permute, toList_ofLanes, absorbBlockList]
  congr 1
  induction s using forall_lanes
  rfl

def absorbList : Nat → List UInt64 → Bytes → List UInt64
  | 0, s, rest => absorbBlockList s (padBlock rest)
  | n + 1, s, bytes => absorbList n (absorbBlockList s (bytes.take rate)) (bytes.drop rate)

theorem toList_absorb (n : Nat) (s : Lanes) (bytes : Bytes) :
    (absorb n s bytes).toList = absorbList n s.toList bytes := by
  induction n generalizing s bytes with
  | zero => exact toList_absorbBlock s _
  | succ n ih => rw [absorb, absorbList, ih, toList_absorbBlock]

def squeezeList : List UInt64 → Octets 32
  | a :: b :: c :: d :: _ =>
    Octets.ofNatLE 8 a.toNat ++ Octets.ofNatLE 8 b.toNat ++ Octets.ofNatLE 8 c.toNat ++
      Octets.ofNatLE 8 d.toNat
  | _ => .zero 32

theorem squeeze_eq (s : Lanes) : squeeze s = squeezeList s.toList := by
  induction s using forall_lanes
  rfl

end Sha3

/-- The digest of given bytes is evaluated on the list: it is matched at once, where each lane
of a vector is looked up anew. -/
theorem sha3_eq (message : Bytes) :
    sha3 message = Sha3.squeezeList
      (Sha3.absorbList (message.length / Sha3.rate) (List.replicate 25 0) message) := by
  rw [sha3, Sha3.squeeze_eq, Sha3.toList_absorb]
  rfl

end RedactableLedger
