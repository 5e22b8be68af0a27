import RingBallot.Proofs.Signature.Ring.Basic

/-!
The signer of a ring signature is not hidden. The second generator of a key is a multiple of the
generator by a number that the key shows, so the key image is the same multiple of the key, and
anyone can compute it for every member of a ring.
-/

namespace RingBallot

open RingBallot.Curve

/-- The key image of the pair behind a key, computed from the key alone. -/
def Curve.publicImage (E : Curve) (Y : Point) : Outcome Point := E.mul (Y.coordinateSum E.p) Y

variable {E : Curve}

lemma Curve.publicImage_coe [Fact E.p.Prime] (Y : E.Element) :
    E.publicImage Y = .ok ↑((Y : Point).coordinateSum E.p • Y) :=
  mul_coe _ Y

lemma KeyPair.publicImage_key [Fact E.p.Prime] (kp : KeyPair E) :
    E.publicImage kp.key = kp.keyImage := by
  rw [keyImage_eq, ← coe_element, publicImage_coe, image, Element.hashed]
  nth_rewrite 2 [element]
  rw [smul_comm]

namespace RingSignature

variable (E) in
/-- The members that the key image can be of. -/
def suspects (ring : List Point) (σ : RingSignature) : Finset ℕ :=
  {i ∈ Finset.range ring.length | ring[i]?.map E.publicImage = some (.ok σ.keyImage)}

variable {ring : List Point} {σ : RingSignature}

lemma mem_suspects {i : ℕ} :
    i ∈ suspects E ring σ ↔ ∃ Y, ring[i]? = some Y ∧ E.publicImage Y = .ok σ.keyImage := by
  rw [suspects, Finset.mem_filter, Finset.mem_range, Option.map_eq_some_iff]
  refine and_iff_right_of_imp ?_
  rintro ⟨Y, hY, -⟩
  exact (List.getElem?_eq_some_iff.mp hY).1

lemma suspects_eq_singleton {s : ℕ} {Y : Point} (hs : ring[s]? = some Y)
    (hY : E.publicImage Y = .ok σ.keyImage)
    (hne : ∀ i Z, i ≠ s → ring[i]? = some Z → E.publicImage Z ≠ E.publicImage Y) :
    suspects E ring σ = {s} := by
  ext i
  rw [mem_suspects, Finset.mem_singleton]
  constructor
  · rintro ⟨Z, hi, hZ⟩
    by_contra his
    exact hne i Z his hi (hZ.trans hY.symm)
  · rintro rfl
    exact ⟨Y, hs, hY⟩

/-- **The signer is found from public data alone**: it is among the suspects, and the only one where
the images of the other members differ from its own. -/
theorem signer_mem_suspects (hp : E.p.Prime) {m : Message} {kp : KeyPair E} {index : ℤ}
    {draws : ℕ → ℤ} (hsign : (sign m kp ring index draws).outcome = .ok σ) :
    ∃ (s : ℕ) (Y : Point), index = s ∧ ring[s]? = some Y ∧ E.publicImage Y = .ok σ.keyImage ∧
      (∀ Z ∈ ring, ∃ I, E.publicImage Z = .ok I) ∧ s ∈ suspects E ring σ ∧
      ((∀ i Z, i ≠ s → ring[i]? = some Z → E.publicImage Z ≠ E.publicImage Y) →
        suspects E ring σ = {s}) := by
  have := Fact.mk hp
  obtain ⟨s, hindex, hs, hclose⟩ := sign_outcome_iff.mp hsign
  obtain ⟨image, pairs, h, himage, hpairs, -, hσ⟩ := close_eq_ok_iff.mp hclose
  have hkey : E.publicImage kp.key = .ok σ.keyImage := by
    rw [kp.publicImage_key, himage, ← hσ, closed]
  have hring := contains_of_signerCommitments hpairs (drawn_length draws _ _)
    (drawn_length draws _ _)
  refine ⟨s, kp.key, hindex, hs, hkey, fun Z hZ => ?_, mem_suspects.mpr ⟨_, hs, hkey⟩,
    suspects_eq_singleton hs hkey⟩
  exact ⟨_, publicImage_coe ⟨Z, hring Z hZ⟩⟩

/-- The image of a member whose second generator is infinity differs as well. -/
theorem signer_mem_suspects_curve19 :
    curve19.p.Prime ∧
      (sign (.text "vote") keyPair19 [.affine 15 4, .affine 13 12, .affine 12 3] 1
        fun i => 5 * i * i + 3).outcome = .ok ⟨.affine 13 7, [3, 5, 2], [6, 2, 2]⟩ ∧
      suspects curve19 [.affine 15 4, .affine 13 12, .affine 12 3]
        ⟨.affine 13 7, [3, 5, 2], [6, 2, 2]⟩ = {1} := by
  have hsign : (sign (.text "vote") keyPair19 [.affine 15 4, .affine 13 12, .affine 12 3] 1
      fun i => 5 * i * i + 3).outcome = .ok ⟨.affine 13 7, [3, 5, 2], [6, 2, 2]⟩ := by
    decide +kernel
  have hp := curve19_primeOrder.p_prime
  obtain ⟨s, Y, hindex, hs, -, -, -, hunique⟩ := signer_mem_suspects hp hsign
  obtain rfl : 1 = s := by omega
  obtain rfl : .affine 13 12 = Y := Option.some.inj hs
  refine ⟨hp, hsign, hunique ?_⟩
  rintro (_ | _ | _ | i) Z hi hZ
  · obtain rfl : .affine 15 4 = Z := Option.some.inj hZ
    decide +kernel
  · exact absurd rfl hi
  · obtain rfl : .affine 12 3 = Z := Option.some.inj hZ
    decide +kernel
  · cases hZ

end RingSignature

end RingBallot
