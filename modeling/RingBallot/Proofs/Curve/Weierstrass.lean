import Mathlib.AlgebraicGeometry.EllipticCurve.Affine.Point
import Mathlib.Algebra.Group.TransferInstance
import Mathlib.Tactic.Lift
import Mathlib.Tactic.LinearCombination
import RingBallot.Curve.Basic
import RingBallot.Proofs.Residue.Prime

/-!
The points of a curve as a group. The substitution `(b x, b² y)` takes the curve to one in
Weierstrass form over the field of residues, point by point and both ways, and the group of that
curve is carried back along it.
-/

namespace RingBallot.Curve

open WeierstrassCurve.Affine RingBallot.Residue

variable (E : Curve)

@[ext]
structure Element where
  point : Point
  contains : E.Contains point

variable {E}

namespace Element

instance : CoeOut E.Element Point := ⟨Element.point⟩

instance : CanLift Point E.Element Element.point E.Contains := ⟨fun P hP => ⟨⟨P, hP⟩, rfl⟩⟩

lemma coe_inj {P Q : E.Element} : (P : Point) = Q ↔ P = Q :=
  ⟨Element.ext, congrArg _⟩

variable (E) in
def gen : E.Element := ⟨E.generator, E.contains_generator⟩

end Element

lemma equation_iff_zmod {x y : ℤ} : E.Equation x y ↔
    (E.b : ZMod E.p) * y * y = x * x * x + E.a * x * x + x := by
  unfold Parameters.Equation Parameters.cubic
  rw [← ZMod.intCast_eq_intCast_iff']
  push_cast
  exact Iff.rfl

/-! ### The Weierstrass form -/

variable (E) in
def weierstrass : WeierstrassCurve.Affine (ZMod E.p) where
  a₁ := 0
  a₂ := E.a * E.b
  a₃ := 0
  a₄ := E.b ^ 2
  a₆ := 0

section Prime

variable [hp : Fact E.p.Prime]

lemma p_odd : E.p % 2 = 1 := by
  have := E.valid.1
  have := hp.out.eq_two_or_odd
  omega

lemma b_ne_zero : (E.b : ZMod E.p) ≠ 0 := fun h => E.valid.2.2.1 (emod_eq_zero_iff.mpr h)

lemma two_ne_zero_zmod : (2 : ZMod E.p) ≠ 0 := by
  intro h
  have h2 : ((2 : ℤ) : ZMod E.p) = 0 := by exact_mod_cast h
  have := Int.le_of_dvd (by norm_num) ((ZMod.intCast_zmod_eq_zero_iff_dvd 2 E.p).mp h2)
  have := E.valid.1
  omega

lemma discriminant_ne_zero : E.weierstrass.Δ ≠ 0 := by
  have ha : (E.a : ZMod E.p) ^ 2 - 4 ≠ 0 := by
    intro h
    refine E.valid.2.2.2.1 (emod_eq_zero_iff.mpr ?_)
    push_cast
    rw [← pow_two]
    exact h
  have hΔ : E.weierstrass.Δ = 2 ^ 4 * (E.b : ZMod E.p) ^ 6 * ((E.a : ZMod E.p) ^ 2 - 4) := by
    simp only [WeierstrassCurve.Δ, WeierstrassCurve.b₂, WeierstrassCurve.b₄, WeierstrassCurve.b₆,
      WeierstrassCurve.b₈, weierstrass]
    ring
  rw [hΔ]
  exact mul_ne_zero (mul_ne_zero (pow_ne_zero _ two_ne_zero_zmod) (pow_ne_zero _ b_ne_zero)) ha

lemma nonsingular_iff {x y : ℤ} :
    E.weierstrass.Nonsingular (E.b * x) (E.b ^ 2 * y) ↔ E.Equation x y := by
  have hb : (E.b : ZMod E.p) ^ 3 ≠ 0 := pow_ne_zero _ b_ne_zero
  rw [← equation_iff_nonsingular_of_Δ_ne_zero discriminant_ne_zero, equation_iff,
    equation_iff_zmod]
  simp only [weierstrass]
  constructor
  · intro h
    apply mul_left_cancel₀ hb
    linear_combination h
  · intro h
    linear_combination (E.b : ZMod E.p) ^ 3 * h

namespace Element

def toWeierstrass : E.Element → E.weierstrass.Point
  | ⟨.infinity, _⟩ => 0
  | ⟨.affine x y, h⟩ => .some (E.b * x) (E.b ^ 2 * y) (nonsingular_iff.mpr h.2.2)

lemma toWeierstrass_injective : Function.Injective (toWeierstrass (E := E)) := by
  rintro ⟨_ | ⟨x, y⟩, hP⟩ ⟨_ | ⟨u, v⟩, hQ⟩ h
  · rfl
  · exact absurd h.symm (Point.some_ne_zero _)
  · exact absurd h (Point.some_ne_zero _)
  · simp only [toWeierstrass, Point.some.injEq] at h
    have hx : x = u := eq_of_zmod_eq hP.1 hQ.1 (mul_left_cancel₀ b_ne_zero h.1)
    have hy : y = v :=
      eq_of_zmod_eq hP.2.1 hQ.2.1 (mul_left_cancel₀ (pow_ne_zero 2 b_ne_zero) h.2)
    subst hx hy
    rfl

lemma exists_toWeierstrass_eq {x y : ℤ} (hx : E.Reduced x) (hy : E.Reduced y) {X Y : ZMod E.p}
    (h : E.weierstrass.Nonsingular X Y) (hX : X = E.b * x) (hY : Y = E.b ^ 2 * y) :
    ∃ P : E.Element, (P : Point) = .affine x y ∧ P.toWeierstrass = .some X Y h := by
  subst hX hY
  exact ⟨⟨.affine x y, hx, hy, nonsingular_iff.mp h⟩, rfl, rfl⟩

lemma toWeierstrass_surjective : Function.Surjective (toWeierstrass (E := E)) := by
  have hreduced (z : ZMod E.p) : E.Reduced (z.val : ℤ) :=
    ⟨by positivity, by exact_mod_cast z.val_lt⟩
  have hdiv {c : ZMod E.p} (hc : c ≠ 0) (z : ZMod E.p) : z = c * ((z / c).val : ℤ) := by
    rw [Int.cast_natCast, ZMod.natCast_zmod_val, mul_div_cancel₀ z hc]
  rintro (_ | ⟨X, Y, h⟩)
  · exact ⟨⟨.infinity, trivial⟩, rfl⟩
  · obtain ⟨P, -, hP⟩ := exists_toWeierstrass_eq (hreduced (X / E.b)) (hreduced (Y / E.b ^ 2)) h
      (hdiv b_ne_zero X) (hdiv (pow_ne_zero 2 b_ne_zero) Y)
    exact ⟨P, hP⟩

variable (E) in
/-- Elements are the points of the Weierstrass curve. -/
noncomputable def weierstrassEquiv : E.Element ≃ E.weierstrass.Point :=
  Equiv.ofBijective toWeierstrass ⟨toWeierstrass_injective, toWeierstrass_surjective⟩

noncomputable instance : AddCommGroup E.Element := (weierstrassEquiv E).addCommGroup

lemma toWeierstrass_add (P Q : E.Element) :
    (P + Q).toWeierstrass = P.toWeierstrass + Q.toWeierstrass :=
  (weierstrassEquiv E).apply_symm_apply _

lemma toWeierstrass_neg (P : E.Element) : (-P).toWeierstrass = -P.toWeierstrass :=
  (weierstrassEquiv E).apply_symm_apply _

lemma toWeierstrass_zero : (0 : E.Element).toWeierstrass = 0 :=
  (weierstrassEquiv E).apply_symm_apply _

@[simp] lemma mk_infinity (h : E.Contains .infinity) : (⟨.infinity, h⟩ : E.Element) = 0 :=
  toWeierstrass_injective toWeierstrass_zero.symm

@[simp] lemma coe_zero : ((0 : E.Element) : Point) = .infinity := by
  rw [← mk_infinity trivial]

lemma coe_eq_infinity {P : E.Element} : (P : Point) = .infinity ↔ P = 0 := by
  rw [← coe_zero (E := E), coe_inj]

end Element

end Prime

end RingBallot.Curve
