import RingBallot.Proofs.Curve.Standard

/-!
The check of the subgroup asks only that the order kills a point. A curve has two points for each
abscissa at most and one at infinity, too few for a second direction of points that a large prime
order kills. So what passes the check is a multiple of the generator.
-/

namespace RingBallot.Curve

open RingBallot.Residue

variable {E : Curve}

/-! ### The number of points -/

namespace Element

variable [Fact E.p.Prime]

/-- The abscissa and whether the ordinate is odd, none for infinity. -/
def sketch : E.Element → Option (ZMod E.p × Bool)
  | ⟨.infinity, _⟩ => none
  | ⟨.affine x y, _⟩ => some (x, y % 2 = 1)

lemma sketch_injective : Function.Injective (sketch (E := E)) := by
  rintro ⟨_ | ⟨x, y⟩, hP⟩ ⟨_ | ⟨u, v⟩, hQ⟩ h
  · rfl
  · cases h
  · cases h
  · simp only [sketch, Option.some.injEq, Prod.mk.injEq, decide_eq_decide] at h
    obtain rfl : x = u := eq_of_zmod_eq hP.1 hQ.1 h.1
    obtain ⟨hy, hyp⟩ := hP.2.1
    obtain ⟨hv, hvp⟩ := hQ.2.1
    have hyv : y = v := by
      by_contra hne
      have hsum : (y + v : ZMod E.p) = 0 := by
        by_contra hsum
        exact hne (eq_of_not_opposite hP hQ hsum)
      -- opposite ordinates make up the odd modulus, so their parities differ
      have hodd := p_odd (E := E)
      lift y to ℕ using hy
      lift v to ℕ using hv
      rw [Int.cast_natCast, Int.cast_natCast] at hsum
      have := add_eq_of_zmod (by omega) (by omega) hsum
      omega
    subst hyv
    rfl

instance : Finite E.Element := Finite.of_injective _ sketch_injective

lemma card_le : Nat.card E.Element ≤ 2 * E.p + 1 := by
  calc Nat.card E.Element ≤ Nat.card (Option (ZMod E.p × Bool)) :=
        Nat.card_le_card_of_injective _ sketch_injective
    _ = 2 * E.p + 1 := by
        rw [Finite.card_option, Nat.card_prod, Nat.card_zmod, Nat.card_eq_fintype_card,
          Fintype.card_bool, mul_comm]

/-! ### One direction only -/

variable [Fact E.n.Prime] {P Q : E.Element}

/-- Combinations of a point with one that is no multiple of it are all different. -/
lemma combination_injective (hP : E.n • P = 0) (h0 : P ≠ 0) (hQ : E.n • Q = 0)
    (hne : ∀ k : ℤ, k • P ≠ Q) :
    Function.Injective fun ab : ZMod E.n × ZMod E.n => (ab.1.val : ℤ) • P + (ab.2.val : ℤ) • Q := by
  have hcast (z : ZMod E.n) : ((z.val : ℤ) : ZMod E.n) = z := by
    rw [Int.cast_natCast, ZMod.natCast_zmod_val]
  rintro ⟨r, c⟩ ⟨r', c'⟩ h
  simp only at h
  have hc : c = c' := by
    by_contra hcc
    have hsub : ((c'.val - c.val : ℤ) : ZMod E.n) ≠ 0 := by
      rw [Int.cast_sub, hcast, hcast]
      exact sub_ne_zero.mpr (Ne.symm hcc)
    obtain ⟨w, -, hw⟩ := inverse_spec hsub
    exact hne _ (eq_smul_of_sums hP hQ (by exact_mod_cast hw) h)
  subst hc
  have hr := (smul_eq_smul_iff hP h0).mp (add_right_cancel h)
  rw [hcast, hcast] at hr
  rw [hr]

/-- **What a large order kills is a multiple.** -/
lemma exists_smul_eq (hlarge : 2 * E.p + 1 < E.n ^ 2) (hP : E.n • P = 0) (h0 : P ≠ 0)
    (hQ : E.n • Q = 0) : ∃ k : ℤ, k • P = Q := by
  by_contra! hne
  have hcard : E.n ^ 2 ≤ 2 * E.p + 1 :=
    calc E.n ^ 2 = Nat.card (ZMod E.n × ZMod E.n) := by rw [Nat.card_prod, Nat.card_zmod, pow_two]
      _ ≤ Nat.card E.Element :=
        Nat.card_le_card_of_injective _ (combination_injective hP h0 hQ hne)
      _ ≤ 2 * E.p + 1 := card_le
  omega

end Element

/-! ### Keys -/

structure KeyOf (E : Curve) (k : ℤ) (P : Point) : Prop where
  range : 1 ≤ k ∧ k ≤ E.n - 1
  key : E.baseMul k = .ok P

section LargeOrder

variable [Fact E.p.Prime]

lemma KeyOf.inSubgroup (hE : E.PrimeOrder) {k : ℤ} {P : Point} (h : E.KeyOf k P) :
    E.inSubgroup P = .ok true := by
  have := Fact.mk hE.n_prime
  have hkey := h.key
  have hrange := h.range
  rw [baseMul_coe, Except.ok.injEq] at hkey
  rw [← hkey, Element.inSubgroup_coe_iff (Element.smul_killed hE.killed k), ne_eq,
    Element.smul_eq_zero_iff hE.killed Element.gen_ne_zero]
  exact zmod_ne_zero (by omega) (by omega)

lemma exists_keyOf (hE : E.LargeOrder) {P : Point} (h : E.inSubgroup P = .ok true) :
    ∃ k, E.KeyOf k P := by
  have := Fact.mk hE.n_prime
  obtain ⟨Q, rfl, h0, hn⟩ := inSubgroup_iff.mp h
  obtain ⟨k, hk⟩ := Element.exists_smul_eq hE.large hE.killed Element.gen_ne_zero hn
  rw [← Element.smul_emod hE.killed] at hk
  have hrange := emod_range (p := E.n) k
  have hk0 : k % E.n ≠ 0 := by
    intro hk0
    rw [hk0, zero_zsmul] at hk
    exact h0 hk.symm
  exact ⟨k % E.n, ⟨by omega, by omega⟩, by rw [baseMul_coe, hk]⟩

lemma KeyOf.unique (hE : E.PrimeOrder) {k l : ℤ} {P : Point} (hk : E.KeyOf k P)
    (hl : E.KeyOf l P) : k = l := by
  have := Fact.mk hE.n_prime
  have hkl := hk.key.trans hl.key.symm
  rw [baseMul_coe, baseMul_coe, Except.ok.injEq, Element.coe_inj,
    Element.smul_eq_smul_iff hE.killed Element.gen_ne_zero] at hkl
  have h₁ := hk.range
  have h₂ := hl.range
  exact eq_of_zmod_eq ⟨by omega, by omega⟩ ⟨by omega, by omega⟩ hkl

lemma inSubgroup_add_torsion {P T : Point} (hP : E.inSubgroup P = .ok true) (hT : E.Contains T)
    (hfinite : T ≠ .infinity) (hno : E.inSubgroup T = .ok false) :
    ∃ R, E.add P T = .ok R ∧ E.inSubgroup R = .ok false := by
  obtain ⟨P, rfl, -, hPn⟩ := inSubgroup_iff.mp hP
  lift T to E.Element using hT
  refine ⟨_, add_coe P T, ?_⟩
  obtain ⟨_ | _, hb⟩ := inSubgroup_total (E := E) ↑(P + T)
  · exact hb
  obtain ⟨R, hR, -, hn⟩ := inSubgroup_iff.mp hb
  rw [Element.coe_inj.mp hR, smul_add, hPn, zero_add] at hn
  rw [(Element.inSubgroup_coe_iff hn).mpr fun h0 => hfinite (Element.coe_eq_infinity.mpr h0)] at hno
  cases hno

end LargeOrder

/-- **The check of the subgroup admits exactly the public keys**, the key of one secret each, and
no key that is shifted by torsion. The standard curve is one for which this holds. -/
theorem inSubgroup_iff_keyOf :
    curve25519.LargeOrder ∧ ∀ E : Curve, E.LargeOrder → ∀ P : Point,
      (∃ b, E.inSubgroup P = .ok b) ∧
      (E.inSubgroup P = .ok true ↔ ∃ k, E.KeyOf k P) ∧
      (∀ k l, E.KeyOf k P → E.KeyOf l P → k = l) ∧
      (E.inSubgroup P = .ok true → ∀ T, E.Contains T → T ≠ .infinity →
        E.inSubgroup T = .ok false → ∃ R, E.add P T = .ok R ∧ E.inSubgroup R = .ok false) := by
  refine ⟨curve25519_largeOrder, fun E hE P => ?_⟩
  have := Fact.mk hE.p_prime
  exact ⟨inSubgroup_total P, ⟨exists_keyOf hE, fun ⟨_, hk⟩ => hk.inSubgroup hE.toPrimeOrder⟩,
    fun _ _ hk hl => hk.unique hE.toPrimeOrder hl,
    fun hP _ hT hfinite hno => inSubgroup_add_torsion hP hT hfinite hno⟩

/-- The standard generator, and the point of order two added to it. -/
theorem inSubgroup_iff_keyOf_curve25519 :
    curve25519.LargeOrder ∧ curve25519.inSubgroup curve25519.generator = .ok true ∧
      curve25519.Contains (.affine 0 0) ∧ curve25519.inSubgroup (.affine 0 0) = .ok false ∧
      (∃ R, curve25519.add curve25519.generator (.affine 0 0) = .ok R ∧
        curve25519.inSubgroup R = .ok false) ∧
      ∀ k, curve25519.KeyOf k curve25519.generator → k = 1 := by
  obtain ⟨hE, hall⟩ := inSubgroup_iff_keyOf
  obtain ⟨-, hiff, hunique, htorsion⟩ := hall curve25519 hE curve25519.generator
  have hone : curve25519.KeyOf 1 curve25519.generator := ⟨by decide, by decide +kernel⟩
  have hT : curve25519.Contains (.affine 0 0) := by decide
  have hno : curve25519.inSubgroup (.affine 0 0) = .ok false := by decide +kernel
  have hG := hiff.mpr ⟨1, hone⟩
  exact ⟨hE, hG, hT, hno, htorsion hG _ hT nofun hno, fun k hk => hunique k 1 hk hone⟩

end RingBallot.Curve
