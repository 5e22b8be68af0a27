import Mathlib.Data.Set.Card
import RingBallot.Proofs.Curve.Subgroup
import RingBallot.Proofs.Signature.Totality

/-!
The second scalars that are accepted beside one. The verifier divides one point by the second
scalar and looks at the abscissa of the quotient only. So the opposite scalar, which gives the
opposite point, is accepted whenever a scalar is. Any other scalar gives another abscissa, and is
accepted only if that leaves the same remainder modulo the order, which few abscissas do.
-/

namespace RingBallot

open RingBallot.Residue RingBallot.Curve

variable {E : Curve}

namespace Signature

/-- The scalar `s'` is in range, and divides to a point with another abscissa than the one by `s`
but with the same remainder. -/
structure Collides (E : Curve) (e : ℕ) (Y : Point) (r s s' : ℤ) : Prop where
  range : 1 ≤ s' ∧ s' ≤ E.n - 1
  abscissas : ∃ x y u v, combined E e Y ⟨r, s⟩ = .ok (.affine x y) ∧
    combined E e Y ⟨r, s'⟩ = .ok (.affine u v) ∧ x ≠ u ∧ x % E.n = u % E.n

section Prime

variable [Fact E.p.Prime] {e : ℕ} {Q X X' : E.Element} {r s s' : ℤ}

/-! ### Quotients of several scalars -/

lemma Divides.opposite (h : Divides e Q r s X) : Divides e Q r (E.n - s) (-X) where
  killed := by rw [smul_neg, h.killed, neg_zero]
  equation := by
    rw [sub_smul, smul_neg, smul_neg, sub_neg_eq_add, natCast_zsmul, h.killed, neg_zero, zero_add,
      h.equation]

variable [Fact E.n.Prime]

lemma Divides.scalar_unique (hX : X ≠ 0) (h : Divides e Q r s X) (h' : Divides e Q r s' X) :
    (s' : ZMod E.n) = s :=
  (Element.smul_eq_smul_iff h.killed hX).mp (h'.equation.trans h.equation.symm)

/-! ### Abscissas -/

section Combined

variable {x y v : ℤ} (hG : E.n • Element.gen E = 0) (hQ : E.n • Q = 0)

include hG hQ

lemma divides_of_combined (hs : 0 < s ∧ s < E.n)
    (h : combined E e Q ⟨r, s⟩ = .ok (.affine x y)) :
    ∃ X : E.Element, (X : Point) = .affine x y ∧ X ≠ 0 ∧ Divides e Q r s X := by
  obtain ⟨X, hX, hdiv⟩ := (combined_eq_ok_iff hG hQ (zmod_ne_zero hs.1 hs.2)).mp h
  refine ⟨X, hX, ?_, hdiv⟩
  rintro rfl
  rw [Element.coe_zero] at hX
  cases hX

lemma combined_opposite (hs : 0 < s ∧ s < E.n)
    (h : combined E e Q ⟨r, s⟩ = .ok (.affine x y)) :
    combined E e Q ⟨r, E.n - s⟩ = .ok (.affine x (-y % E.p)) := by
  obtain ⟨X, hX, -, hdiv⟩ := divides_of_combined hG hQ hs h
  have hs' : ((E.n - s : ℤ) : ZMod E.n) ≠ 0 := zmod_ne_zero (by omega) (by omega)
  refine (combined_eq_ok_iff hG hQ hs').mpr ⟨-X, ?_, hdiv.opposite⟩
  rw [← opposite_coe, hX]
  rfl

/-- At one abscissa there are two quotients only, those by a scalar and by its opposite. -/
lemma eq_or_eq_of_abscissa (hs : 0 < s ∧ s < E.n) (hs' : 0 < s' ∧ s' < E.n)
    (h : combined E e Q ⟨r, s⟩ = .ok (.affine x y))
    (h' : combined E e Q ⟨r, s'⟩ = .ok (.affine x v)) : s' = s ∨ s' = E.n - s := by
  obtain ⟨X, hX, -, hdiv⟩ := divides_of_combined hG hQ hs h
  obtain ⟨X', hX', h0, hdiv'⟩ := divides_of_combined hG hQ hs' h'
  rcases eq_or_eq_neg_of_abscissa hX' hX with rfl | rfl
  · exact .inl (eq_of_zmod_eq ⟨hs'.1.le, hs'.2⟩ ⟨hs.1.le, hs.2⟩ (hdiv.scalar_unique h0 hdiv'))
  · exact .inr (eq_of_zmod_eq ⟨hs'.1.le, hs'.2⟩ (by omega) (hdiv.opposite.scalar_unique h0 hdiv'))

/-! ### Acceptance -/

lemma accepted_iff {m : Message} (hY : E.inSubgroup Q = .ok true) (he : m.number = .ok e)
    (hr : 1 ≤ r ∧ r ≤ E.n - 1) :
    verify E m Q ⟨r, s⟩ = .ok .accepted ↔
      (0 < s ∧ s < E.n) ∧ ∃ x y, combined E e Q ⟨r, s⟩ = .ok (.affine x y) ∧ x % E.n = r := by
  rw [verify_accepted_iff, outside?_eq_none_iff]
  constructor
  · rintro ⟨-, ⟨-, hs⟩, e', x, y, he', hX, -, hxr⟩
    obtain rfl : e = e' := Except.ok.inj (he.symm.trans he')
    dsimp only at hs
    exact ⟨by omega, x, y, hX, hxr⟩
  · rintro ⟨hs, x, y, hX, hxr⟩
    obtain ⟨X, hXP, -, -⟩ := divides_of_combined hG hQ hs hX
    refine ⟨hY, ⟨hr, ?_⟩, e, x, y, he, hX, hXP ▸ X.contains, hxr⟩
    dsimp only
    omega

lemma accepted_iff_collides {m : Message} (hY : E.inSubgroup Q = .ok true)
    (he : m.number = .ok e) (hr : 1 ≤ r ∧ r ≤ E.n - 1)
    (h : verify E m Q ⟨r, s⟩ = .ok .accepted) (hne : s' ≠ s) (hopp : s' ≠ E.n - s) :
    verify E m Q ⟨r, s'⟩ = .ok .accepted ↔ Collides E e Q r s s' := by
  obtain ⟨hs, x, y, hX, hxr⟩ := (accepted_iff hG hQ hY he hr).mp h
  rw [accepted_iff hG hQ hY he hr]
  constructor
  · rintro ⟨hs', u, v, hU, hur⟩
    refine ⟨by omega, x, y, u, v, hX, hU, ?_, hxr.trans hur.symm⟩
    rintro rfl
    exact (eq_or_eq_of_abscissa hG hQ hs hs' hX hU).elim hne hopp
  · rintro ⟨hs', x', y', u, v, hX', hU, -, hmod⟩
    cases hX.symm.trans hX'
    exact ⟨by omega, u, v, hU, hmod.symm.trans hxr⟩

end Combined

/-! ### How many scalars are accepted -/

/-- Which of the abscissas with one remainder a point has, and whether its ordinate is odd. -/
def place (n : ℕ) : Outcome Point → ℕ × Bool
  | .ok (.affine x y) => ((x / n).toNat, y % 2 = 1)
  | _ => (0, false)

omit [Fact E.p.Prime] in
lemma place_lt {x y : ℤ} (hX : (X : Point) = .affine x y) :
    (place E.n (.ok X)).1 < E.p / E.n + 1 := by
  obtain ⟨_, hXE⟩ := X
  subst hX
  have hdiv : (x / E.n).toNat ≤ E.p / E.n := by
    rw [Int.toNat_le, Int.natCast_ediv]
    exact Int.ediv_le_ediv (by exact_mod_cast (Fact.out : E.n.Prime).pos) hXE.1.2.le
  exact Nat.lt_succ_of_le hdiv

lemma eq_of_place_eq {x y u v : ℤ} (hX : (X : Point) = .affine x y)
    (hX' : (X' : Point) = .affine u v) (hmod : x % E.n = u % E.n)
    (h : place E.n (.ok X) = place E.n (.ok X')) : X = X' := by
  obtain ⟨_, hXE⟩ := X
  obtain ⟨_, hXE'⟩ := X'
  subst hX hX'
  have hn : (0 : ℤ) < E.n := by exact_mod_cast (Fact.out : E.n.Prime).pos
  have hx := Int.ediv_nonneg hXE.1.1 hn.le
  have hu := Int.ediv_nonneg hXE'.1.1 hn.le
  obtain ⟨hdiv, hodd⟩ := Prod.mk.inj h
  have hxu : x = u := by
    rw [← Int.mul_ediv_add_emod x E.n, ← Int.mul_ediv_add_emod u E.n, hmod]
    congr 2
    omega
  subst hxu
  apply Element.sketch_injective
  simp only [Element.sketch, hodd]

lemma encard_accepted_le (hG : E.n • Element.gen E = 0) (hQ : E.n • Q = 0) {m : Message}
    (hY : E.inSubgroup Q = .ok true) (he : m.number = .ok e) (hr : 1 ≤ r ∧ r ≤ E.n - 1) :
    {s | verify E m Q ⟨r, s⟩ = .ok .accepted}.encard ≤ (2 * (E.p / E.n + 1) : ℕ) := by
  set places : Finset (ℕ × Bool) := Finset.range (E.p / E.n + 1) ×ˢ Finset.univ with hplaces
  have hle : {s | verify E m Q ⟨r, s⟩ = .ok .accepted}.encard ≤
      (places : Set (ℕ × Bool)).encard := by
    refine Set.encard_le_encard_of_injOn (f := fun s => place E.n (combined E e Q ⟨r, s⟩)) ?_ ?_
    · intro s hs
      obtain ⟨hs, x, y, hX, -⟩ := (accepted_iff hG hQ hY he hr).mp hs
      obtain ⟨Z, hZ, -, -⟩ := divides_of_combined hG hQ hs hX
      simp only [hX, ← hZ, hplaces, Finset.mem_coe, Finset.mem_product, Finset.mem_range,
        Finset.mem_univ, and_true]
      exact place_lt hZ
    · intro s hs s' hs' h
      obtain ⟨hs, x, y, hX, hxr⟩ := (accepted_iff hG hQ hY he hr).mp hs
      obtain ⟨hs', u, v, hX', hur⟩ := (accepted_iff hG hQ hY he hr).mp hs'
      obtain ⟨Z, hZ, h0, hdiv⟩ := divides_of_combined hG hQ hs hX
      obtain ⟨Z', hZ', -, hdiv'⟩ := divides_of_combined hG hQ hs' hX'
      simp only [hX, hX', ← hZ, ← hZ'] at h
      obtain rfl := eq_of_place_eq hZ hZ' (hxr.trans hur.symm) h
      exact eq_of_zmod_eq ⟨hs.1.le, hs.2⟩ ⟨hs'.1.le, hs'.2⟩ (hdiv'.scalar_unique h0 hdiv)
  calc {s | verify E m Q ⟨r, s⟩ = .ok .accepted}.encard ≤ (places : Set (ℕ × Bool)).encard := hle
    _ = (2 * (E.p / E.n + 1) : ℕ) := by
      rw [Set.encard_coe_eq_coe_finsetCard, hplaces, Finset.card_product, Finset.card_range,
        Finset.card_univ, Fintype.card_bool, mul_comm]

end Prime

/-- **Beside an accepted scalar its opposite is accepted**, and of all others only those that
collide with it. At most two are accepted for each abscissa that has the remainder `r`. -/
theorem accepted_alongside (hE : E.PrimeOrder) (h2 : E.n ≠ 2) {m : Message} {Y : Point} {r s : ℤ}
    (h : verify E m Y ⟨r, s⟩ = .ok .accepted) :
    (E.n - s ≠ s ∧ verify E m Y ⟨r, E.n - s⟩ = .ok .accepted) ∧
      (∃ e, m.number = .ok e ∧ ∀ s', s' ≠ s → s' ≠ E.n - s →
        (Collides E e Y r s s' → verify E m Y ⟨r, s'⟩ = .ok .accepted) ∧
        (¬ Collides E e Y r s s' → ∃ why, verify E m Y ⟨r, s'⟩ = .ok (.rejected why))) ∧
      {s' | verify E m Y ⟨r, s'⟩ = .ok .accepted}.encard ≤ (2 * (E.p / E.n + 1) : ℕ) := by
  have := Fact.mk hE.p_prime
  have := Fact.mk hE.n_prime
  have hG := hE.killed
  obtain ⟨hY, hin, e, -, -, he, -⟩ := verify_accepted_iff.mp h
  obtain ⟨hr, -⟩ := outside?_eq_none_iff.mp hin
  obtain ⟨Q, rfl, -, hQ⟩ := inSubgroup_iff.mp hY
  obtain ⟨hs, x, y, hX, hxr⟩ := (accepted_iff hG hQ hY he hr).mp h
  refine ⟨⟨?_, ?_⟩, ⟨e, he, fun s' hne hopp => ?_⟩, encard_accepted_le hG hQ hY he hr⟩
  · obtain ⟨k, hk⟩ := hE.n_prime.odd_of_ne_two h2
    omega
  · exact (accepted_iff hG hQ hY he hr).mpr
      ⟨by omega, x, _, combined_opposite hG hQ hs hX, hxr⟩
  · have hiff := accepted_iff_collides hG hQ hY he hr h hne hopp
    refine ⟨hiff.mpr, fun hno => ?_⟩
    obtain ⟨_ | why, hv⟩ :=
      verify_total (E := E) (Message.signable_of_number he) Q ⟨r, s'⟩
    · exact absurd (hiff.mp hv) hno
    · exact ⟨why, hv⟩

/-- On the standard curve sixteen scalars at most are accepted for one `r`. -/
example : 2 * (curve25519.p / curve25519.n + 1) = 16 := by decide +kernel

/-- A curve of 44 points with a subgroup of 11. The abscissas 2 and 24 have one remainder. -/
def curve37 : Curve where
  name := "Curve37"
  a := 1
  b := 2
  p := 37
  n := 11
  gx := 2
  gy := 9
  valid := by decide

lemma curve37_primeOrder : curve37.PrimeOrder where
  p_prime := by norm_num [curve37]
  n_prime := by norm_num [curve37]
  order := by decide +kernel

/-- The scalars 4 and 7 are opposite, and 1 divides to the other abscissa. -/
theorem accepted_beside_accepted :
    curve37.PrimeOrder ∧ curve37.n ≠ 2 ∧
      verify curve37 (.text "vote") (.affine 24 16) ⟨2, 4⟩ = .ok .accepted ∧
      verify curve37 (.text "vote") (.affine 24 16) ⟨2, 7⟩ = .ok .accepted ∧
      verify curve37 (.text "vote") (.affine 24 16) ⟨2, 1⟩ = .ok .accepted :=
  ⟨curve37_primeOrder, by decide, by decide +kernel, by decide +kernel, by decide +kernel⟩

/-- Of the scalars beside 4 and its opposite, 1 collides and 2 is refused. -/
theorem accepted_alongside_curve37 :
    curve37.PrimeOrder ∧ curve37.n ≠ 2 ∧
      verify curve37 (.text "vote") (.affine 24 16) ⟨2, 4⟩ = .ok .accepted ∧
      verify curve37 (.text "vote") (.affine 24 16) ⟨2, curve37.n - 4⟩ = .ok .accepted ∧
      (∃ e, Message.number (.text "vote") = .ok e ∧
        Collides curve37 e (.affine 24 16) 2 4 1 ∧ ¬ Collides curve37 e (.affine 24 16) 2 4 2) ∧
      {s' | verify curve37 (.text "vote") (.affine 24 16) ⟨2, s'⟩ = .ok .accepted}.encard ≤
        (8 : ℕ) := by
  have h2 : curve37.n ≠ 2 := by decide
  have h : verify curve37 (.text "vote") (.affine 24 16) ⟨2, 4⟩ = .ok .accepted := by
    decide +kernel
  have hone : verify curve37 (.text "vote") (.affine 24 16) ⟨2, 1⟩ = .ok .accepted := by
    decide +kernel
  have htwo : verify curve37 (.text "vote") (.affine 24 16) ⟨2, 2⟩ ≠ .ok .accepted := by
    decide +kernel
  obtain ⟨⟨-, hopp⟩, ⟨e, he, hall⟩, hcard⟩ := accepted_alongside curve37_primeOrder h2 h
  refine ⟨curve37_primeOrder, h2, h, hopp, ⟨e, he, ?_, ?_⟩, hcard⟩
  · by_contra hno
    obtain ⟨why, hwhy⟩ := (hall 1 (by decide) (by decide)).2 hno
    cases hone.symm.trans hwhy
  · exact fun hcollides => htwo ((hall 2 (by decide) (by decide)).1 hcollides)

end Signature

end RingBallot
