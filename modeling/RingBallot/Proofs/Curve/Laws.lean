import RingBallot.Proofs.Curve.Order

/-!
The laws of the operations as a caller meets them, over points that may or may not be on the
curve. The checked operations make the points an abelian group and refuse everything else, and
multiples by double and add are what repeated addition gives.
-/

namespace RingBallot.Curve

variable {E : Curve}

/-! ### Sums and opposites -/

/-- The points of the curve are an abelian group under the checked operations. -/
structure AbelianGroup (E : Curve) : Prop where
  infinity_mem : E.Contains .infinity
  add_closed {P Q : Point} (hP : E.Contains P) (hQ : E.Contains Q) :
    ∃ R, E.add P Q = .ok R ∧ E.Contains R
  add_comm {P Q : Point} (hP : E.Contains P) (hQ : E.Contains Q) : E.add P Q = E.add Q P
  add_assoc {P Q R : Point} (hP : E.Contains P) (hQ : E.Contains Q) (hR : E.Contains R) :
    (do E.add (← E.add P Q) R) = do E.add P (← E.add Q R)
  infinity_add {P : Point} (hP : E.Contains P) : E.add .infinity P = .ok P
  add_negate {P : Point} (hP : E.Contains P) :
    ∃ R, E.negate P = .ok R ∧ E.Contains R ∧ E.add P R = .ok .infinity

lemma abelianGroup [Fact E.p.Prime] : E.AbelianGroup where
  infinity_mem := E.contains_infinity
  add_closed {P Q} hP hQ := by
    lift P to E.Element using hP
    lift Q to E.Element using hQ
    exact ⟨_, add_coe P Q, (P + Q).contains⟩
  add_comm {P Q} hP hQ := by
    lift P to E.Element using hP
    lift Q to E.Element using hQ
    rw [add_coe, add_coe, add_comm]
  add_assoc {P Q R} hP hQ hR := by
    lift P to E.Element using hP
    lift Q to E.Element using hQ
    lift R to E.Element using hR
    simp only [add_coe, Outcome.ok_bind, add_assoc]
  infinity_add {P} hP := by
    lift P to E.Element using hP
    rw [← Element.coe_zero (E := E), add_coe, zero_add]
  add_negate {P} hP := by
    lift P to E.Element using hP
    exact ⟨_, negate_coe P, (-P).contains, by rw [add_coe, add_neg_cancel, Element.coe_zero]⟩

lemma require_bind_fails {α : Type} {P : Point} {f : Unit → Outcome α} :
    (E.require P >>= f).Fails .notOnCurve ↔ (E.Contains P → (f ()).Fails .notOnCurve) := by
  by_cases hP : E.Contains P
  · simp [E.require_of_contains hP, hP]
  · simp [E.require_of_not_contains hP, hP, Failure.kind]

lemma add_fails_iff [Fact E.p.Prime] (P Q : Point) :
    (E.add P Q).Fails .notOnCurve ↔ ¬ E.Contains P ∨ ¬ E.Contains Q := by
  rw [add, require_bind_fails, require_bind_fails, ← not_and_or, not_and]
  refine forall_congr' fun hP => forall_congr' fun hQ => ?_
  lift P to E.Element using hP
  lift Q to E.Element using hQ
  simp

lemma negate_fails_iff (P : Point) : (E.negate P).Fails .notOnCurve ↔ ¬ E.Contains P := by
  rw [negate, require_bind_fails]
  simp

lemma double_cases [Fact E.p.Prime] (P : Point) :
    ¬ E.Contains P ∧ E.double P = .error (.offCurve P E.name) ∨
      E.Contains P ∧ (∃ x, P = .affine x 0) ∧ E.double P = .error .verticalTangent ∨
      E.Contains P ∧ (∀ x, P ≠ .affine x 0) ∧ E.double P = E.add P P ∧
        ∃ R, E.double P = .ok R := by
  by_cases hP : E.Contains P
  · by_cases hx : ∃ x, P = .affine x 0
    · obtain ⟨x, rfl⟩ := hx
      exact .inr (.inl ⟨hP, ⟨x, rfl⟩, double_vertical hP⟩)
    · lift P to E.Element using hP
      have hdouble := double_coe (not_exists.mp hx)
      exact .inr (.inr ⟨P.contains, not_exists.mp hx, by rw [hdouble, add_coe], _, hdouble⟩)
  · refine .inl ⟨hP, ?_⟩
    unfold double
    rw [E.require_of_not_contains hP, Outcome.error_bind]

lemma double_vertical_iff [Fact E.p.Prime] (P : Point) :
    (E.double P).Fails .notInvertible ↔ E.Contains P ∧ ∃ x, P = .affine x 0 := by
  rcases double_cases (E := E) P with ⟨hP, h⟩ | ⟨hP, hx, h⟩ | ⟨-, hx, -, R, h⟩
  · simp [h, hP, Failure.kind]
  · simp [h, hP, hx, Failure.kind]
  · simp [h, hx]

lemma double_fails_iff [Fact E.p.Prime] (P : Point) :
    (E.double P).Fails .notOnCurve ↔ ¬ E.Contains P := by
  rcases double_cases (E := E) P with ⟨hP, h⟩ | ⟨hP, -, h⟩ | ⟨hP, -, -, R, h⟩
  · simp [h, hP, Failure.kind]
  · simp [h, hP, Failure.kind]
  · simp [h, hP]

lemma double_eq_add [Fact E.p.Prime] {P : Point} (hP : E.Contains P)
    (hx : ∀ x, P ≠ .affine x 0) : E.double P = E.add P P := by
  rcases double_cases (E := E) P with ⟨h, -⟩ | ⟨-, ⟨x, h⟩, -⟩ | ⟨-, -, h, -⟩
  · exact absurd hP h
  · exact absurd h (hx x)
  · exact h

/-- **The checked group law**: an abelian group of the points on the curve, a double that is the
sum except where the tangent is vertical, and a refusal exactly where an operand is off the
curve. -/
theorem checked_group_law (hp : E.p.Prime) :
    E.AbelianGroup ∧
      (∀ P, E.Contains P → (∀ x, P ≠ .affine x 0) → E.double P = E.add P P) ∧
      (∀ P, (E.double P).Fails .notInvertible ↔ E.Contains P ∧ ∃ x, P = .affine x 0) ∧
      (∀ P Q, (E.add P Q).Fails .notOnCurve ↔ ¬ E.Contains P ∨ ¬ E.Contains Q) ∧
      (∀ P, (E.double P).Fails .notOnCurve ↔ ¬ E.Contains P) ∧
      ∀ P, (E.negate P).Fails .notOnCurve ↔ ¬ E.Contains P := by
  have := Fact.mk hp
  exact ⟨abelianGroup, fun P hP hx => double_eq_add hP hx, double_vertical_iff, add_fails_iff,
    double_fails_iff, negate_fails_iff⟩

/-- A doubling inside one side of a sum of three, a point of order two, and a point off the
curve. -/
theorem checked_group_law_curve19 :
    curve19.p.Prime ∧ curve19.Contains (.affine 6 9) ∧ curve19.Contains (.affine 1 15) ∧
      (do curve19.add (← curve19.add (.affine 6 9) (.affine 6 9)) (.affine 1 15)) =
        (do curve19.add (.affine 6 9) (← curve19.add (.affine 6 9) (.affine 1 15))) ∧
      curve19.double (.affine 6 9) = curve19.add (.affine 6 9) (.affine 6 9) ∧
      (curve19.double (.affine 0 0)).Fails .notInvertible ∧
      (curve19.add (.affine 6 9) (.affine 2 2)).Fails .notOnCurve := by
  have hp := curve19_primeOrder.p_prime
  have hP : curve19.Contains (.affine 6 9) := by decide
  have hT : curve19.Contains (.affine 1 15) := by decide
  obtain ⟨hgroup, hdouble, hvertical, hadd, -, -⟩ := checked_group_law hp
  exact ⟨hp, hP, hT, hgroup.add_assoc hP hP hT, hdouble _ hP nofun,
    (hvertical _).mpr ⟨by decide, 0, rfl⟩, (hadd _ _).mpr (.inr (by decide))⟩

/-! ### Multiples -/

/-- The sum of `k` copies of a point, one checked addition after the other. -/
def addTimes (E : Curve) (k : ℕ) (P : Point) : Outcome Point :=
  (List.replicate k P).foldlM E.add .infinity

/-- The integers act on the points of the curve, and on a subgroup by their residues. -/
structure IntegerAction (E : Curve) : Prop where
  mul_closed {P : Point} (hP : E.Contains P) (d : ℤ) : ∃ Q, E.mul d P = .ok Q ∧ E.Contains Q
  add_mul {P : Point} (hP : E.Contains P) (a b : ℤ) :
    E.mul (a + b) P = do E.add (← E.mul a P) (← E.mul b P)
  mul_mul {P : Point} (hP : E.Contains P) (a b : ℤ) :
    (do E.mul a (← E.mul b P)) = E.mul (a * b) P
  mul_add {P Q : Point} (hP : E.Contains P) (hQ : E.Contains Q) (a : ℤ) :
    (do E.mul a (← E.add P Q)) = do E.add (← E.mul a P) (← E.mul a Q)
  mul_congr {P : Point} (hP : E.inSubgroup P = .ok true) {a b : ℤ} (h : a % E.n = b % E.n) :
    E.mul a P = E.mul b P

section Prime

variable [Fact E.p.Prime]

lemma foldlM_add_coe (k : ℕ) (acc P : E.Element) :
    (List.replicate k (P : Point)).foldlM E.add acc = .ok ↑(acc + k • P) := by
  induction k generalizing acc with
  | zero => simp
  | succ k ih =>
    rw [List.replicate_succ, List.foldlM_cons, add_coe, Outcome.ok_bind, ih, succ_nsmul', add_assoc]

lemma addTimes_coe (k : ℕ) (P : E.Element) : E.addTimes k P = .ok ↑(k • P) := by
  rw [addTimes, ← Element.coe_zero (E := E), foldlM_add_coe, zero_add]

lemma mul_eq_addTimes_of_contains {P : Point} (hP : E.Contains P) (d : ℤ) :
    ∃ Q, E.addTimes d.natAbs P = .ok Q ∧ E.addMultiple d.natAbs .infinity P = .ok Q ∧
      E.mul d P = if d < 0 then E.negate Q else .ok Q := by
  lift P to E.Element using hP
  have hloop : E.addMultiple d.natAbs .infinity P = .ok ↑(d.natAbs • P) := by
    rw [← Element.coe_zero (E := E), addMultiple_coe, zero_add]
  refine ⟨_, addTimes_coe _ P, hloop, ?_⟩
  rw [mul, require_coe, Outcome.ok_bind, hloop, Outcome.ok_bind]
  split_ifs
  · rw [negate_coe, opposite_coe, Outcome.pure_eq]
  · rfl

lemma integerAction : E.IntegerAction where
  mul_closed {P} hP d := by
    lift P to E.Element using hP
    exact ⟨_, mul_coe d P, (d • P).contains⟩
  add_mul {P} hP a b := by
    lift P to E.Element using hP
    simp only [mul_coe, add_coe, Outcome.ok_bind, add_zsmul]
  mul_mul {P} hP a b := by
    lift P to E.Element using hP
    simp only [mul_coe, Outcome.ok_bind, mul_zsmul]
  mul_add {P Q} hP hQ a := by
    lift P to E.Element using hP
    lift Q to E.Element using hQ
    simp only [mul_coe, add_coe, Outcome.ok_bind, zsmul_add]
  mul_congr {P} hP {a b} h := by
    obtain ⟨P, rfl, -, hn⟩ := inSubgroup_iff.mp hP
    have hab : (a : ZMod E.n) = b := (ZMod.intCast_eq_intCast_iff' a b E.n).mpr h
    rw [mul_coe, mul_coe, Element.smul_congr hn hab]

end Prime

/-- **Double and add is repeated addition**: the loop never fails, and gives what one addition after
the other gives, reflected for a negative scalar. So multiples are an action of the integers. -/
theorem mul_eq_addTimes (hp : E.p.Prime) :
    (∀ P, E.Contains P → ∀ d : ℤ,
      ∃ Q, E.addTimes d.natAbs P = .ok Q ∧ E.addMultiple d.natAbs .infinity P = .ok Q ∧
        E.mul d P = if d < 0 then E.negate Q else .ok Q) ∧
      E.IntegerAction := by
  have := Fact.mk hp
  exact ⟨fun P hP d => mul_eq_addTimes_of_contains hP d, integerAction⟩

/-- A negative scalar on a point of order 28, whose multiples pass through the point of order two,
and scalars beyond the order on a point of order 7. -/
theorem mul_eq_addTimes_curve19 :
    curve19.p.Prime ∧ curve19.Contains (.affine 6 9) ∧
      (∃ Q, curve19.addTimes 30 (.affine 6 9) = .ok Q ∧
        curve19.mul (-30) (.affine 6 9) = curve19.negate Q) ∧
      curve19.mul (-30 + 44) (.affine 6 9) =
        (do curve19.add (← curve19.mul (-30) (.affine 6 9)) (← curve19.mul 44 (.affine 6 9))) ∧
      (do curve19.mul (-3) (← curve19.add (.affine 6 9) (.affine 1 15))) =
        (do curve19.add (← curve19.mul (-3) (.affine 6 9)) (← curve19.mul (-3) (.affine 1 15))) ∧
      curve19.inSubgroup (.affine 13 7) = .ok true ∧
      curve19.mul 100 (.affine 13 7) = curve19.mul (-5) (.affine 13 7) := by
  have hp := curve19_primeOrder.p_prime
  have hP : curve19.Contains (.affine 6 9) := by decide
  have hsub : curve19.inSubgroup (.affine 13 7) = .ok true := by decide +kernel
  obtain ⟨hrefine, haction⟩ := mul_eq_addTimes hp
  obtain ⟨Q, hQ, -, hmul⟩ := hrefine _ hP (-30)
  exact ⟨hp, hP, ⟨Q, hQ, hmul⟩, haction.add_mul hP _ _, haction.mul_add hP (by decide) _, hsub,
    haction.mul_congr hsub (by decide)⟩

end RingBallot.Curve
