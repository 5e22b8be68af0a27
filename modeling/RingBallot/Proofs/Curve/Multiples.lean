import Mathlib.GroupTheory.OrderOfElement
import RingBallot.Proofs.Curve.GroupLaw

/-!
Double and add computes the multiples of the group. With that, the check of the subgroup and the
second generator of a key are statements about multiples.
-/

namespace RingBallot

/-- The sum of the coordinates, reduced. Infinity has none, which counts as zero. -/
def Point.coordinateSum (p : ℕ) : Point → ℤ
  | .infinity => 0
  | .affine x y => (x + y) % p

namespace Curve

open RingBallot.Residue

variable {E : Curve}

section Prime

variable [Fact E.p.Prime]

lemma addMultiple_step (k : ℕ) (acc step : E.Element) :
    E.addMultiple k acc step =
      if k < 2 then .ok ↑(acc + (k % 2) • step)
      else E.addMultiple (k / 2) ↑(acc + (k % 2) • step) ↑(step + step) := by
  rw [addMultiple]
  rcases Nat.mod_two_eq_zero_or_one k with h | h <;> simp [h]

/-- What is added to `acc` and what is left of `step` make up the same sum after every digit. -/
lemma addMultiple_coe (k : ℕ) (acc step : E.Element) :
    E.addMultiple k acc step = .ok ↑(acc + k • step) := by
  induction k using Nat.strongRecOn generalizing acc step with
  | _ k ih =>
    rw [addMultiple_step]
    split_ifs with hk
    · rw [Nat.mod_eq_of_lt hk]
    · have hsum : acc + (k % 2) • step + (k / 2) • (step + step) = acc + k • step := by
        conv_rhs => rw [← Nat.mod_add_div k 2, add_nsmul, mul_comm, mul_nsmul', two_nsmul]
        rw [add_assoc]
      rw [ih (k / 2) (by omega), hsum]

/-- **Double and add computes the multiple, for every whole number.** -/
@[simp] theorem mul_coe (d : ℤ) (P : E.Element) : E.mul d P = .ok ↑(d • P) := by
  have h : E.addMultiple d.natAbs .infinity P = .ok ↑(d.natAbs • P) := by
    rw [← Element.coe_zero (E := E), addMultiple_coe, zero_add]
  rw [mul, require_coe, Outcome.ok_bind, h, Outcome.ok_bind, Outcome.pure_eq]
  rcases lt_or_ge d 0 with hd | hd
  · have hneg : d = -(d.natAbs : ℤ) := by omega
    rw [if_pos hd, opposite_coe, ← natCast_zsmul, ← neg_zsmul, ← hneg]
  · have hpos : d = (d.natAbs : ℤ) := by omega
    rw [if_neg (by omega), ← natCast_zsmul, ← hpos]

@[simp] lemma baseMul_coe (d : ℤ) : E.baseMul d = .ok ↑(d • Element.gen E) :=
  mul_coe d (Element.gen E)

/-! ### The subgroup -/

lemma inSubgroup_total (P : Point) : ∃ b, E.inSubgroup P = .ok b := by
  unfold inSubgroup
  split_ifs with h
  · exact ⟨false, rfl⟩
  · obtain ⟨-, hP⟩ := not_or.mp h
    exact ⟨_, by rw [mul_coe E.n ⟨P, not_not.mp hP⟩]; rfl⟩

/-- The points that pass are the finite elements that the claimed order kills. -/
lemma inSubgroup_iff {P : Point} :
    E.inSubgroup P = .ok true ↔ ∃ Q : E.Element, (Q : Point) = P ∧ Q ≠ 0 ∧ E.n • Q = 0 := by
  have hinf {R : Point} : R.isInfinite = true ↔ R = .infinity := by cases R <;> simp
  unfold inSubgroup
  split_ifs with h
  · refine ⟨fun h' => by simp at h', ?_⟩
    rintro ⟨Q, rfl, h0, -⟩
    refine absurd h (not_or.mpr ⟨fun h' => h0 ?_, not_not.mpr Q.contains⟩)
    exact Element.coe_eq_infinity.mp (hinf.mp h')
  · obtain ⟨hfin, hP⟩ := not_or.mp h
    have hP := not_not.mp hP
    have hmul : E.mul E.n P = .ok ↑(E.n • (⟨P, hP⟩ : E.Element)) := by
      rw [mul_coe E.n ⟨P, hP⟩, natCast_zsmul]
    rw [hmul]
    simp only [Outcome.ok_bind, Outcome.pure_eq, Except.ok.injEq, hinf, Element.coe_eq_infinity]
    constructor
    · intro h0
      exact ⟨⟨P, hP⟩, rfl, fun h' => hfin (hinf.mpr (Element.coe_eq_infinity.mpr h')), h0⟩
    · rintro ⟨Q, rfl, -, h0⟩
      exact h0

lemma contains_of_inSubgroup {P : Point} (h : E.inSubgroup P = .ok true) : E.Contains P := by
  obtain ⟨Q, rfl, -, -⟩ := inSubgroup_iff.mp h
  exact Q.contains

/-! ### The second generator -/

/-- The second generator of a key. -/
noncomputable def Element.hashed (P : E.Element) : E.Element :=
  (P : Point).coordinateSum E.p • gen E

@[simp] lemma hashToPoint_coe (P : E.Element) : E.hashToPoint P = .ok ↑P.hashed := by
  have hreq := require_coe P
  obtain ⟨_ | ⟨x, y⟩, hP⟩ := P
  · rw [hashToPoint, hreq]
    simp [Element.hashed, Point.coordinateSum]
  · rw [hashToPoint, hreq]
    exact baseMul_coe _

end Prime

end Curve

end RingBallot
