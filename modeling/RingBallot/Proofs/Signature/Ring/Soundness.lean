import RingBallot.Proofs.Signature.Ring.Basic

/-!
Two answers to the same commitments. Where the shares of a member differ, the two equations of its
first commitment can be solved for its key, and those of its second commitment for the key image,
since the check of the subgroup leaves no torsion in either.
-/

namespace RingBallot

open RingBallot.Residue RingBallot.Curve

variable {E : Curve}

namespace RingSignature

variable (E) in
/-- The number that two pairs of a share and a response give away. -/
def extract (cr cr' : ℤ × ℤ) : Outcome ℤ := do
  let w ← inverse (cr'.1 - cr.1) E.n
  return (cr.2 - cr'.2) * w % E.n

/-- The number is the secret of `Y`, and the image is made with it. -/
structure Opens (E : Curve) (Y image : Point) (x : ℤ) : Prop where
  range : 1 ≤ x ∧ x ≤ E.n - 1
  key : E.baseMul x = .ok Y
  image : ∃ H, E.hashToPoint Y = .ok H ∧ E.mul x H = .ok image

variable {ring : List Point} {σ τ : RingSignature} {pairs : List (Point × Point)}

lemma commitment_of_commitments (h : commitments E ring σ = .ok pairs) {i : ℕ} {Y : Point}
    {cr : ℤ × ℤ} (hY : ring[i]? = some Y) (hcr : (σ.c.zip σ.r)[i]? = some cr) :
    ∃ LR, pairs[i]? = some LR ∧ commitment E σ.keyImage Y cr.1 cr.2 = .ok LR := by
  have hx : (ring.zip (σ.c.zip σ.r))[i]? = some (Y, cr) :=
    List.getElem?_zip_eq_some.mpr ⟨hY, hcr⟩
  exact Outcome.getElem?_of_mapM h hx

lemma exists_share_ne (hσ : σ.Fits E ring) (hτ : τ.Fits E ring)
    (hsum : σ.c.sum % E.n ≠ τ.c.sum % E.n) :
    ∃ (i : ℕ) (Y : Point) (cr cr' : ℤ × ℤ), ring[i]? = some Y ∧ (σ.c.zip σ.r)[i]? = some cr ∧
      (τ.c.zip τ.r)[i]? = some cr' ∧ cr.1 ≠ cr'.1 := by
  obtain ⟨hc, hr, -, -⟩ := hσ
  obtain ⟨hc', hr', -, -⟩ := hτ
  by_contra hall
  refine hsum (congrArg (·.sum % (E.n : ℤ)) (List.ext_getElem (by omega) fun i h₁ h₂ => ?_))
  by_contra hne
  refine hall ⟨i, ring[i], (σ.c[i], σ.r[i]), (τ.c[i], τ.r[i]), by simp, ?_, ?_, hne⟩
  · exact List.getElem?_zip_eq_some.mpr ⟨by simp, by simp⟩
  · exact List.getElem?_zip_eq_some.mpr ⟨by simp, by simp⟩

/-- The two commitments of a member, solved. -/
lemma opens_of_commitment_eq [Fact E.p.Prime] [Fact E.n.Prime] (hG : E.n • Element.gen E = 0)
    {Y image : E.Element} (hY : E.n • Y = 0) (hY0 : Y ≠ 0) (himage : E.n • image = 0)
    {cr cr' : ℤ × ℤ} (hne : (cr.1 : ZMod E.n) ≠ cr'.1)
    (h : commitment E image Y cr.1 cr.2 = commitment E image Y cr'.1 cr'.2) :
    ∃ x, extract E cr cr' = .ok x ∧ Opens E Y image x := by
  have hne' : ((cr'.1 - cr.1 : ℤ) : ZMod E.n) ≠ 0 := by
    rw [Int.cast_sub]
    exact sub_ne_zero.mpr hne.symm
  obtain ⟨w, hw, hwz⟩ := inverse_spec hne'
  rw [commitment_coe, commitment_coe, Except.ok.injEq, Prod.mk.injEq, Element.coe_inj,
    Element.coe_inj] at h
  have hwz' : ((cr'.1 - cr.1 : ℤ) * (w : ℤ) : ZMod E.n) = 1 := by push_cast at hwz ⊢; exact hwz
  have hkey := Element.eq_smul_of_sums hG hY hwz' h.1
  have hopen := Element.eq_smul_of_sums (Y.hashed_killed hG) himage hwz' h.2
  refine ⟨_, by rw [extract, hw]; rfl, ?_, ?_, _, hashToPoint_coe Y, ?_⟩
  · have hrange := emod_range (p := E.n) ((cr.2 - cr'.2) * w)
    have h0 : (cr.2 - cr'.2) * w % E.n ≠ 0 := by
      intro h0
      rw [h0, zero_zsmul] at hkey
      exact hY0 hkey.symm
    omega
  · rw [baseMul_coe, hkey]
  · rw [mul_coe, hopen]

lemma Opens.keyPair (hE : E.PrimeOrder) {Y image : Point} {x : ℤ} (h : Opens E Y image x)
    (kp : KeyPair E) (hkp : kp.key = Y) : kp.secret = x ∧ kp.keyImage = .ok image := by
  have := Fact.mk hE.p_prime
  have := Fact.mk hE.n_prime
  have hkey := h.key
  have h0 := h.range
  rw [← hkp, ← kp.coe_element, baseMul_coe, Except.ok.injEq, Element.coe_inj, KeyPair.element,
    Element.smul_eq_smul_iff hE.killed Element.gen_ne_zero] at hkey
  have h1 := kp.secret_lt
  have hx : (kp.secret : ℤ) = x := eq_of_zmod_eq ⟨by omega, by omega⟩ ⟨by omega, by omega⟩ hkey.symm
  obtain ⟨H, hH, hmul⟩ := h.image
  refine ⟨hx, ?_⟩
  rw [KeyPair.keyImage, hkp, hH, Outcome.ok_bind, hx, hmul]

/-- **Special soundness and linkability.** Whoever answers two challenges on the same commitments
gives away the secret of a member, by the shares that differ, and has used the image of that
secret. -/
theorem extract_opens (hE : E.PrimeOrder) (hring : ∀ Y ∈ ring, E.inSubgroup Y = .ok true)
    (himage : E.inSubgroup σ.keyImage = .ok true) (hlinked : τ.keyImage = σ.keyImage)
    (hσ : σ.Fits E ring) (hτ : τ.Fits E ring) (hsame : commitments E ring σ = commitments E ring τ)
    (hsum : σ.c.sum % E.n ≠ τ.c.sum % E.n) :
    (∃ (i : ℕ) (Y : Point) (cr cr' : ℤ × ℤ), ring[i]? = some Y ∧
      (σ.c.zip σ.r)[i]? = some cr ∧ (τ.c.zip τ.r)[i]? = some cr' ∧ cr.1 ≠ cr'.1) ∧
    ∀ (i : ℕ) (Y : Point) (cr cr' : ℤ × ℤ), ring[i]? = some Y →
      (σ.c.zip σ.r)[i]? = some cr → (τ.c.zip τ.r)[i]? = some cr' → cr.1 ≠ cr'.1 →
        ∃ x, extract E cr cr' = .ok x ∧ Opens E Y σ.keyImage x ∧
          ∀ kp : KeyPair E, kp.key = Y → kp.secret = x ∧ kp.keyImage = .ok σ.keyImage := by
  have := Fact.mk hE.p_prime
  have := Fact.mk hE.n_prime
  have hG := hE.killed
  refine ⟨exists_share_ne hσ hτ hsum, fun i Y cr cr' hY hcr hcr' hne => ?_⟩
  obtain ⟨Q, hQ, hQ0, hQn⟩ := inSubgroup_iff.mp (hring Y (List.mem_of_getElem? hY))
  obtain ⟨I, hI, -, hIn⟩ := inSubgroup_iff.mp himage
  -- both commitments of the member are the same points
  obtain ⟨pairs, hpairs⟩ : ∃ pairs, commitments E ring σ = .ok pairs :=
    commitments_total (fun Z hZ => contains_of_inSubgroup (hring Z hZ))
      (contains_of_inSubgroup himage)
  obtain ⟨LR, hLR, h⟩ := commitment_of_commitments hpairs hY hcr
  obtain ⟨LR', hLR', h'⟩ := commitment_of_commitments (hsame ▸ hpairs) hY hcr'
  obtain rfl : LR = LR' := Option.some.inj (hLR.symm.trans hLR')
  have heq : commitment E I Q cr.1 cr.2 = commitment E I Q cr'.1 cr'.2 := by
    rw [hI, hQ, h, ← hlinked, h']
  -- reduced shares that differ, differ in the field
  have hne' : (cr.1 : ZMod E.n) ≠ cr'.1 := by
    have h₁ := hσ.share_range _ (List.mem_of_getElem? (List.getElem?_zip_eq_some.mp hcr).1)
    have h₂ := hτ.share_range _ (List.mem_of_getElem? (List.getElem?_zip_eq_some.mp hcr').1)
    exact fun h => hne (eq_of_zmod_eq h₁ h₂ h)
  obtain ⟨x, hx, hopens⟩ := opens_of_commitment_eq hG hQn hQ0 hIn hne' heq
  rw [hQ, hI] at hopens
  exact ⟨x, hx, hopens, fun kp hkp => hopens.keyPair hE kp hkp⟩

/-- The second member answers twice, the first one gives the same answer. -/
theorem extract_opens_curve19 :
    curve19.PrimeOrder ∧
      commitments curve19 [.affine 12 3, .affine 13 12] ⟨.affine 13 7, [3, 2], [1, 4]⟩ =
        commitments curve19 [.affine 12 3, .affine 13 12] ⟨.affine 13 7, [3, 4], [1, 1]⟩ ∧
      extract curve19 (2, 4) (4, 1) = .ok 5 ∧ Opens curve19 (.affine 13 12) (.affine 13 7) 5 ∧
      keyPair19.keyImage = .ok (.affine 13 7) := by
  have hring : ∀ Y ∈ [Point.affine 12 3, .affine 13 12], curve19.inSubgroup Y = .ok true := by
    decide +kernel
  have himage : curve19.inSubgroup (.affine 13 7) = .ok true := by decide +kernel
  have hσ : Fits curve19 [.affine 12 3, .affine 13 12] ⟨.affine 13 7, [3, 2], [1, 4]⟩ :=
    ⟨rfl, rfl, by decide, by decide⟩
  have hτ : Fits curve19 [.affine 12 3, .affine 13 12] ⟨.affine 13 7, [3, 4], [1, 1]⟩ :=
    ⟨rfl, rfl, by decide, by decide⟩
  have hsame : commitments curve19 [.affine 12 3, .affine 13 12] ⟨.affine 13 7, [3, 2], [1, 4]⟩ =
      commitments curve19 [.affine 12 3, .affine 13 12] ⟨.affine 13 7, [3, 4], [1, 1]⟩ := by
    decide +kernel
  obtain ⟨-, hall⟩ :=
    extract_opens curve19_primeOrder hring himage (by rfl) hσ hτ hsame (by decide)
  obtain ⟨x, hx, hopens, hkp⟩ := hall 1 _ _ _ rfl rfl rfl (by decide)
  have h5 : extract curve19 (2, 4) (4, 1) = .ok 5 := by decide +kernel
  obtain rfl : x = 5 := Except.ok.inj (hx.symm.trans h5)
  exact ⟨curve19_primeOrder, hsame, h5, hopens, (hkp keyPair19 rfl).2⟩

end RingSignature

end RingBallot
