import Mathlib.Tactic.NormNum.Prime
import RingBallot.Proofs.Curve.Multiples

/-!
Scalars modulo the order. Where the claimed order is a prime that kills the generator, a multiple
of a point that it kills depends on the residue of the scalar only, and distinct residues give
distinct multiples of a finite point.
-/

namespace RingBallot.Curve

open RingBallot.Residue

/-- Both moduli are prime and the claimed order kills the generator. -/
structure PrimeOrder (E : Curve) : Prop where
  p_prime : E.p.Prime
  n_prime : E.n.Prime
  order : E.baseMul E.n = .ok .infinity

/-- The prime order is so large that its square exceeds every possible number of points. -/
structure LargeOrder (E : Curve) : Prop extends E.PrimeOrder where
  large : 2 * E.p + 1 < E.n ^ 2

/-- A curve of 28 points with a subgroup of 7. -/
def curve19 : Curve where
  name := "Curve19"
  a := 11
  b := 2
  p := 19
  n := 7
  gx := 12
  gy := 3
  valid := by decide

lemma curve19_primeOrder : curve19.PrimeOrder where
  p_prime := by norm_num [curve19]
  n_prime := by norm_num [curve19]
  order := by decide +kernel

variable {E : Curve} [Fact E.p.Prime]

lemma PrimeOrder.killed (hE : E.PrimeOrder) : E.n • Element.gen E = 0 := by
  have h := hE.order
  rw [baseMul_coe, natCast_zsmul, Except.ok.injEq] at h
  exact Element.coe_eq_infinity.mp h

namespace Element

lemma gen_ne_zero : gen E ≠ 0 := by
  intro h
  have := coe_eq_infinity.mpr h
  cases this

variable {P : E.Element}

lemma smul_killed (hP : E.n • P = 0) (a : ℤ) : E.n • a • P = 0 := by
  rw [smul_comm, hP, smul_zero]

lemma smul_congr (hP : E.n • P = 0) {a b : ℤ} (h : (a : ZMod E.n) = b) : a • P = b • P := by
  obtain ⟨k, hk⟩ := (ZMod.intCast_eq_intCast_iff_dvd_sub a b E.n).mp h
  have hb : b = a + k * E.n := by linarith
  rw [hb, add_zsmul, mul_zsmul, natCast_zsmul, hP, smul_zero, add_zero]

lemma smul_emod (hP : E.n • P = 0) (a : ℤ) : (a % E.n) • P = a • P :=
  smul_congr hP (ZMod.intCast_mod a E.n)

/-- Two sums of the same two points, with other scalars, are solved for the second point. -/
lemma eq_smul_of_sums {P Q : E.Element} (hP : E.n • P = 0) (hQ : E.n • Q = 0) {c r c' r' w : ℤ}
    (hw : ((c' - c : ℤ) * w : ZMod E.n) = 1) (h : r • P + c • Q = r' • P + c' • Q) :
    ((r - r') * w % E.n) • P = Q := by
  have hdiff : (r - r') • P = (c' - c) • Q := by
    rw [sub_smul, sub_smul, sub_eq_sub_iff_add_eq_add, h, add_comm]
  have hone : ((c' - c) * w) • Q = (1 : ℤ) • Q := smul_congr hQ (by push_cast at hw ⊢; exact hw)
  rw [smul_emod hP, mul_comm, mul_zsmul, hdiff, ← mul_zsmul, mul_comm, hone, one_zsmul]

lemma hashed_killed (hG : E.n • gen E = 0) (P : E.Element) : E.n • P.hashed = 0 :=
  smul_killed hG _

lemma inSubgroup_coe_iff (hP : E.n • P = 0) :
    E.inSubgroup P = .ok true ↔ P ≠ 0 := by
  rw [inSubgroup_iff]
  constructor
  · rintro ⟨Q, hQ, h0, -⟩
    rwa [← coe_inj.mp hQ]
  · intro h0
    exact ⟨P, rfl, h0, hP⟩

variable [Fact E.n.Prime]

lemma smul_eq_zero_iff (hP : E.n • P = 0) (h0 : P ≠ 0) {a : ℤ} :
    a • P = 0 ↔ (a : ZMod E.n) = 0 := by
  rw [← addOrderOf_dvd_iff_zsmul_eq_zero, addOrderOf_eq_prime hP h0,
    ZMod.intCast_zmod_eq_zero_iff_dvd]

lemma smul_eq_smul_iff (hP : E.n • P = 0) (h0 : P ≠ 0) {a b : ℤ} :
    a • P = b • P ↔ (a : ZMod E.n) = b := by
  rw [← sub_eq_zero, ← sub_smul, smul_eq_zero_iff hP h0, Int.cast_sub, sub_eq_zero]

lemma hashed_eq_zero_iff (hG : E.n • gen E = 0) (P : E.Element) :
    P.hashed = 0 ↔ (P : Point).coordinateSum E.p % E.n = 0 := by
  rw [hashed, smul_eq_zero_iff hG gen_ne_zero, emod_eq_zero_iff]

end Element

end RingBallot.Curve
