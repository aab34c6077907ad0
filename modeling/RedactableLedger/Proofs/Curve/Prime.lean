import Mathlib.NumberTheory.LucasPrimality
import Mathlib.Tactic.NormNum.Prime
import RedactableLedger.Curve.Bn254
import RedactableLedger.Proofs.Curve.Field

namespace RedactableLedger

/-- A power modulo a number, by squaring along the exponent's binary digits. -/
def powerModulo (m a e : Nat) : Nat :=
  (binaryDigits e).foldl (fun acc bit => if bit then acc * acc * a % m else acc * acc % m)
    (1 % m)

theorem powerModulo_eq (m a e : Nat) : powerModulo m a e = a ^ e % m := by
  refine foldl_binaryDigits (motive := fun n x => x = a ^ n % m) ?_ e ?_
  · intro n x bit hx
    cases bit with
    | false =>
      rw [if_neg Bool.false_ne_true, hx, ← Nat.mul_mod, ← pow_add, Bool.toNat_false, add_zero,
        two_mul]
    | true =>
      rw [if_pos rfl, hx, Nat.mul_mod, ← Nat.mul_mod (a ^ n), ← Nat.mul_mod, ← pow_add,
        Bool.toNat_true, pow_succ, two_mul]
  · rw [pow_zero]

/-- A number, an element of that order less one, and the prime powers that the order is a
product of. -/
structure LucasCertificate where
  number : Nat
  element : Nat
  factors : List (Nat × Nat)

namespace LucasCertificate

def passes (known : List Nat) (c : LucasCertificate) : Bool :=
  decide (1 < c.number) && c.factors.all (fun f => known.contains f.1) &&
    (c.factors.map fun f => f.1 ^ f.2).prod == c.number - 1 &&
    powerModulo c.number c.element (c.number - 1) == 1 &&
    c.factors.all fun f => powerModulo c.number c.element ((c.number - 1) / f.1) != 1

/-- The test of certificates, each of which may use the numbers of those before it. -/
def allPass : List Nat → List LucasCertificate → Bool
  | _, [] => true
  | known, c :: cs => c.passes known && allPass (c.number :: known) cs

theorem natCast_pow_eq_one {m : Nat} (hm : 1 < m) (a e : Nat) :
    (a : ZMod m) ^ e = 1 ↔ powerModulo m a e = 1 := by
  rw [powerModulo_eq, ← Nat.cast_pow, ← Nat.cast_one, ZMod.natCast_eq_natCast_iff',
    Nat.mod_eq_of_lt hm]

theorem prime_of_passes {known : List Nat} {c : LucasCertificate}
    (hknown : ∀ q ∈ known, q.Prime) (h : c.passes known = true) : c.number.Prime := by
  simp only [passes, Bool.and_eq_true, decide_eq_true_eq, List.all_eq_true,
    List.contains_iff_mem, beq_iff_eq, bne_iff_ne] at h
  obtain ⟨⟨⟨⟨hone, hfactors⟩, hproduct⟩, hpower⟩, hsmaller⟩ := h
  apply lucas_primality c.number (c.element : ZMod c.number)
  · exact (natCast_pow_eq_one hone _ _).2 hpower
  · intro q hq hdvd
    rw [← hproduct] at hdvd
    -- a prime that divides the product of the prime powers is one of the primes
    obtain ⟨x, hx, hqx⟩ := (Prime.dvd_prod_iff hq.prime).1 hdvd
    obtain ⟨f, hf, rfl⟩ := List.mem_map.1 hx
    have hqf : q = f.1 :=
      (Nat.prime_dvd_prime_iff_eq hq (hknown _ (hfactors f hf))).1 (hq.dvd_of_dvd_pow hqx)
    intro hpow
    rw [hqf] at hpow
    exact hsmaller f hf ((natCast_pow_eq_one hone _ _).1 hpow)

theorem primes_of_allPass {known : List Nat} {cs : List LucasCertificate}
    (hknown : ∀ q ∈ known, q.Prime) (h : allPass known cs = true) :
    ∀ c ∈ cs, c.number.Prime := by
  induction cs generalizing known with
  | nil =>
    intro c hc
    cases hc
  | cons c cs ih =>
    rw [allPass, Bool.and_eq_true] at h
    have hprime := prime_of_passes hknown h.1
    intro c' hc'
    rcases List.mem_cons.1 hc' with rfl | hc'
    · exact hprime
    · refine ih ?_ h.2 c' hc'
      intro q hq
      rcases List.mem_cons.1 hq with rfl | hq
      · exact hprime
      · exact hknown q hq

end LucasCertificate

namespace Bn254

def smallPrimes : List Nat :=
  [2, 3, 5, 7, 11, 13, 17, 19, 29, 41, 67, 73, 83, 89, 107, 109, 229, 271, 311, 379, 661,
   823, 853, 911, 983, 1231, 1637, 3557, 3691, 4999, 11003, 13327, 41927, 93001, 237073, 327599]

theorem prime_of_mem_smallPrimes : ∀ q ∈ smallPrimes, q.Prime := by
  simp only [smallPrimes, List.forall_mem_cons]
  norm_num

/-- Certificates of the group order and of the coordinates' modulus. -/
def certificates : List LucasCertificate :=
  [⟨405928799, 22, [(2, 1), (11, 1), (3691, 1), (4999, 1)]⟩,
   ⟨12048837557, 2, [(2, 2), (7, 2), (661, 1), (93001, 1)]⟩,
   ⟨5156902474397, 2, [(2, 2), (107, 1), (12048837557, 1)]⟩,
   ⟨1670836401704629, 2, [(2, 2), (3, 4), (5156902474397, 1)]⟩,
   ⟨1593227, 2, [(2, 1), (19, 1), (41927, 1)]⟩,
   ⟨639533339, 2, [(2, 1), (229, 1), (853, 1), (1637, 1)]⟩,
   ⟨65865678001877903, 5, [(2, 1), (83, 1), (379, 1), (1637, 1), (639533339, 1)]⟩,
   ⟨13818364434197438864469338081, 3, [
      (2, 5), (5, 1), (823, 1), (1593227, 1), (65865678001877903, 1)]⟩,
   ⟨groupOrder, 5, [
      (2, 28), (3, 2), (13, 1), (29, 1), (983, 1), (11003, 1), (237073, 1), (405928799, 1),
      (1670836401704629, 1), (13818364434197438864469338081, 1)]⟩,
   ⟨11465965001, 3, [(2, 3), (5, 4), (7, 1), (327599, 1)]⟩,
   ⟨1853641, 17, [(2, 3), (3, 2), (5, 1), (19, 1), (271, 1)]⟩,
   ⟨4562087, 5, [(2, 1), (17, 1), (109, 1), (1231, 1)]⟩,
   ⟨173171039, 13, [(2, 1), (73, 1), (89, 1), (13327, 1)]⟩,
   ⟨1263766531, 10, [(2, 1), (3, 1), (5, 1), (13, 1), (911, 1), (3557, 1)]⟩,
   ⟨35385462869, 2, [(2, 2), (7, 1), (1263766531, 1)]⟩,
   ⟨2480874801745591, 6, [(2, 1), (3, 2), (5, 1), (19, 1), (41, 1), (35385462869, 1)]⟩,
   ⟨13427688667394608761327070753331941386769, 17, [
      (2, 4), (3, 1), (7, 1), (11, 1), (1853641, 1), (4562087, 1), (173171039, 1),
      (2480874801745591, 1)]⟩,
   ⟨fieldModulus, 3, [
      (2, 1), (3, 2), (13, 1), (29, 1), (67, 1), (229, 1), (311, 1), (983, 1), (11003, 1),
      (405928799, 1), (11465965001, 1), (13427688667394608761327070753331941386769, 1)]⟩]

theorem allPass_certificates : LucasCertificate.allPass smallPrimes certificates = true := by
  decide +kernel

theorem prime_of_certificate {c : LucasCertificate} (h : c ∈ certificates) : c.number.Prime :=
  LucasCertificate.primes_of_allPass prime_of_mem_smallPrimes allPass_certificates c h

theorem groupOrder_prime : groupOrder.Prime :=
  prime_of_certificate (List.getElem_mem (show 8 < certificates.length by decide))

theorem fieldModulus_prime : fieldModulus.Prime :=
  prime_of_certificate (List.getElem_mem (show 17 < certificates.length by decide))

instance : Fact fieldModulus.Prime := ⟨fieldModulus_prime⟩

instance : Fact groupOrder.Prime := ⟨groupOrder_prime⟩

end Bn254

end RedactableLedger
