import RingBallot.Curve.Group
import RingBallot.Proofs.Curve.Weierstrass

/-!
The chord and tangent law computes the sum of the group, without a failure and without leaving
the curve. What holds for the unchecked steps holds for the checked operations.
-/

namespace RingBallot.Curve

open WeierstrassCurve.Affine RingBallot.Residue

variable {E : Curve}

@[simp] lemma require_coe (P : E.Element) : E.require P = .ok () :=
  E.require_of_contains P.contains

lemma emod_reduced [NeZero E.p] (v : ℤ) : E.Reduced (v % E.p) := emod_range v

lemma double_vertical {x : ℤ} (h : E.Contains (.affine x 0)) :
    E.double (.affine x 0) = .error .verticalTangent := by
  rw [double, E.require_of_contains h]
  rfl

variable [Fact E.p.Prime]

/-! ### Opposites -/

@[simp] lemma opposite_coe (P : E.Element) : E.opposite P = ↑(-P) := by
  obtain ⟨_ | ⟨x, y⟩, hP⟩ := P
  · rw [Element.mk_infinity, neg_zero, Element.coe_zero, opposite_infinity]
  · have hY : E.weierstrass.negY (E.b * x) (E.b ^ 2 * y) =
        E.b ^ 2 * ((-y % E.p : ℤ) : ZMod E.p) := by
      rw [ZMod.intCast_mod]
      simp [negY, weierstrass]
    obtain ⟨R, hR, hRW⟩ := Element.exists_toWeierstrass_eq hP.1 (emod_reduced (-y))
      ((nonsingular_neg ..).mpr (nonsingular_iff.mpr hP.2.2)) rfl hY
    have h : R = -⟨.affine x y, hP⟩ := by
      apply Element.toWeierstrass_injective
      rw [hRW, Element.toWeierstrass_neg]
      rfl
    rw [← h, hR]
    rfl

lemma negate_coe (P : E.Element) : E.negate P = .ok ↑(-P) := by
  simp [negate]

/-! ### Sums -/

/-- The third point of a line whose slope is that of the line through `P` and `Q`. -/
lemma third_eq {x₁ y₁ x₂ y₂ s : ℤ} (hP : E.Contains (.affine x₁ y₁))
    (hQ : E.Contains (.affine x₂ y₂))
    (hne : ¬ ((E.b * x₁ : ZMod E.p) = E.b * x₂ ∧
      (E.b ^ 2 * y₁ : ZMod E.p) = E.weierstrass.negY (E.b * x₂) (E.b ^ 2 * y₂)))
    (hs : (E.b * s : ZMod E.p) =
      E.weierstrass.slope (E.b * x₁) (E.b * x₂) (E.b ^ 2 * y₁) (E.b ^ 2 * y₂)) :
    E.third s x₁ y₁ x₂ = ((⟨.affine x₁ y₁, hP⟩ + ⟨.affine x₂ y₂, hQ⟩ : E.Element) : Point) := by
  have hPW := nonsingular_iff.mpr hP.2.2
  have hQW := nonsingular_iff.mpr hQ.2.2
  have hX : E.weierstrass.addX (E.b * x₁) (E.b * x₂) (E.b * s) =
      E.b * ((E.b * s * s - E.a - x₁ - x₂) % E.p : ℤ) := by
    rw [ZMod.intCast_mod]
    push_cast
    simp only [addX, weierstrass]
    ring
  have hY : E.weierstrass.addY (E.b * x₁) (E.b * x₂) (E.b ^ 2 * y₁) (E.b * s) =
      E.b ^ 2 * ((s * (x₁ - (E.b * s * s - E.a - x₁ - x₂) % E.p) - y₁) % E.p : ℤ) := by
    rw [addY, negAddY, hX, ZMod.intCast_mod]
    push_cast
    simp only [negY, weierstrass]
    ring
  have hR := nonsingular_add hPW hQW hne
  rw [← hs] at hR
  obtain ⟨R, hRP, hRW⟩ := Element.exists_toWeierstrass_eq (emod_reduced _) (emod_reduced _) hR hX hY
  have h : R = ⟨.affine x₁ y₁, hP⟩ + ⟨.affine x₂ y₂, hQ⟩ := by
    apply Element.toWeierstrass_injective
    rw [hRW, Element.toWeierstrass_add]
    simp only [Element.toWeierstrass, Point.add_some hne, hs]
  rw [← h, hRP]
  rfl

lemma chord_eq {x₁ y₁ x₂ y₂ : ℤ} (hP : E.Contains (.affine x₁ y₁))
    (hQ : E.Contains (.affine x₂ y₂)) (hx : x₁ ≠ x₂) :
    E.chord x₁ y₁ x₂ y₂ =
      .ok ((⟨.affine x₁ y₁, hP⟩ + ⟨.affine x₂ y₂, hQ⟩ : E.Element) : Point) := by
  have hb := b_ne_zero (E := E)
  have hx' : (x₁ : ZMod E.p) ≠ x₂ := fun h => hx (eq_of_zmod_eq hP.1 hQ.1 h)
  have hbx : (E.b * x₁ : ZMod E.p) ≠ E.b * x₂ := fun h => hx' (mul_left_cancel₀ hb h)
  have hd : ((x₂ - x₁ : ℤ) : ZMod E.p) ≠ 0 := by
    push_cast
    exact sub_ne_zero.mpr hx'.symm
  obtain ⟨w, hw, hwz⟩ := inverse_spec hd
  rw [chord, hw, Outcome.ok_bind, Outcome.pure_eq]
  refine congrArg Except.ok (third_eq hP hQ (fun h => hbx h.1) ?_)
  rw [slope_of_X_ne hbx, ZMod.intCast_mod, eq_div_iff (sub_ne_zero.mpr hbx)]
  push_cast at hwz ⊢
  linear_combination (E.b : ZMod E.p) ^ 2 * (y₁ - y₂) * hwz

lemma tangent_eq {x y : ℤ} (hP : E.Contains (.affine x y)) (hy : (y : ZMod E.p) ≠ 0) :
    E.tangent x y = .ok ((⟨.affine x y, hP⟩ + ⟨.affine x y, hP⟩ : E.Element) : Point) := by
  have hb := b_ne_zero (E := E)
  have h2 := two_ne_zero_zmod (E := E)
  have hne : (E.b ^ 2 * y : ZMod E.p) ≠ E.weierstrass.negY (E.b * x) (E.b ^ 2 * y) := by
    intro h
    have h0 : (2 * E.b ^ 2 * y : ZMod E.p) = 0 := by
      simp only [negY, weierstrass] at h
      linear_combination h
    exact mul_ne_zero (mul_ne_zero h2 (pow_ne_zero 2 hb)) hy h0
  have hd : ((2 * E.b * y : ℤ) : ZMod E.p) ≠ 0 := by
    push_cast
    exact mul_ne_zero (mul_ne_zero h2 hb) hy
  obtain ⟨w, hw, hwz⟩ := inverse_spec hd
  rw [tangent, hw, Outcome.ok_bind, Outcome.pure_eq]
  refine congrArg Except.ok (third_eq hP hP (fun h => hne h.2) ?_)
  rw [slope_of_Y_ne rfl hne, ZMod.intCast_mod, eq_div_iff (sub_ne_zero.mpr hne)]
  simp only [negY, weierstrass]
  push_cast at hwz ⊢
  linear_combination (E.b : ZMod E.p) ^ 2 * (3 * x * x + 2 * E.a * x + 1) * hwz

lemma add_eq_zero_of_opposite {x y₁ y₂ : ℤ} (hP : E.Contains (.affine x y₁))
    (hQ : E.Contains (.affine x y₂)) (hy : (y₁ + y₂ : ZMod E.p) = 0) :
    (⟨.affine x y₁, hP⟩ + ⟨.affine x y₂, hQ⟩ : E.Element) = 0 := by
  apply Element.toWeierstrass_injective
  rw [Element.toWeierstrass_add, Element.toWeierstrass_zero]
  refine Point.add_of_Y_eq rfl ?_
  simp only [negY, weierstrass]
  linear_combination (E.b : ZMod E.p) ^ 2 * hy

lemma eq_of_not_opposite {x y₁ y₂ : ℤ} (hP : E.Contains (.affine x y₁))
    (hQ : E.Contains (.affine x y₂)) (hy : (y₁ + y₂ : ZMod E.p) ≠ 0) : y₁ = y₂ := by
  have hb := pow_ne_zero 2 (b_ne_zero (E := E))
  rcases Y_eq_of_X_eq (nonsingular_iff.mpr hP.2.2).1 (nonsingular_iff.mpr hQ.2.2).1 rfl with h | h
  · exact eq_of_zmod_eq hP.2.1 hQ.2.1 (mul_left_cancel₀ hb h)
  · refine absurd (mul_left_cancel₀ hb ?_) hy
    simp only [negY, weierstrass] at h
    linear_combination h

lemma eq_or_eq_neg_of_abscissa {P Q : E.Element} {x y v : ℤ} (hP : (P : Point) = .affine x y)
    (hQ : (Q : Point) = .affine x v) : P = Q ∨ P = -Q := by
  obtain ⟨_, hPE⟩ := P
  obtain ⟨_, hQE⟩ := Q
  subst hP hQ
  by_cases hy : (y + v : ZMod E.p) = 0
  · exact .inr (eq_neg_of_add_eq_zero_left (add_eq_zero_of_opposite hPE hQE hy))
  · obtain rfl := eq_of_not_opposite hPE hQE hy
    exact .inl rfl

@[simp] theorem combine_coe (P Q : E.Element) : E.combine P Q = .ok ↑(P + Q) := by
  obtain ⟨_ | ⟨x₁, y₁⟩, hP⟩ := P
  · rw [Element.mk_infinity, zero_add, Element.coe_zero, combine_infinity_left]
  obtain ⟨_ | ⟨x₂, y₂⟩, hQ⟩ := Q
  · rw [Element.mk_infinity, add_zero, Element.coe_zero, combine_infinity_right]
  have hsum : (y₁ + y₂) % E.p = 0 ↔ (y₁ + y₂ : ZMod E.p) = 0 := by
    rw [emod_eq_zero_iff, Int.cast_add]
  simp only [combine, hsum]
  split_ifs with hx hy
  · subst hx
    rw [add_eq_zero_of_opposite hP hQ hy, Element.coe_zero]
    rfl
  · subst hx
    obtain rfl := eq_of_not_opposite hP hQ hy
    refine tangent_eq hP fun h => hy ?_
    rw [h, add_zero]
  · exact chord_eq hP hQ hx

/-- **The checked sum is the sum of the group.** -/
@[simp] theorem add_coe (P Q : E.Element) : E.add P Q = .ok ↑(P + Q) := by
  simp [add]

/-! ### Doubles -/

lemma double_coe {P : E.Element} (h : ∀ x, (P : Point) ≠ .affine x 0) :
    E.double P = .ok ↑(P + P) := by
  have hreq := require_coe P
  obtain ⟨_ | ⟨x, y⟩, hP⟩ := P
  · rw [double, hreq, Element.mk_infinity, add_zero, Element.coe_zero]
    rfl
  · have hy : y ≠ 0 := fun hy => h x (congrArg (Point.affine x) hy)
    have hy' : (y : ZMod E.p) ≠ 0 := zmod_ne_zero (lt_of_le_of_ne hP.2.1.1 hy.symm) hP.2.1.2
    rw [double, hreq]
    simp only [Outcome.ok_bind, if_neg hy]
    exact tangent_eq hP hy'

end RingBallot.Curve
