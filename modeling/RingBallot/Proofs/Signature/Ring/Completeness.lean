import RingBallot.Proofs.Signature.Ring.Basic

/-!
What the verifier makes of an honest signature. It recomputes the points that the signer committed
to, although by other formulas, so the equation always holds and the verdict depends on the two
checks of the subgroup.
-/

namespace RingBallot

open RingBallot.Residue RingBallot.Curve

variable {E : Curve}

namespace Curve.Element

variable [Fact E.p.Prime]

/-- A response that is corrected by a share keeps the commitment. -/
lemma corrected {P : E.Element} (hP : E.n • P = 0) (r c d : ℤ) :
    ((r - c * d) % E.n) • P + c • d • P = r • P := by
  rw [smul_emod hP, ← mul_zsmul, ← add_zsmul, sub_add_cancel]

end Curve.Element

namespace KeyPair

variable [Fact E.p.Prime] [Fact E.n.Prime]

lemma element_ne_zero (hG : E.n • Element.gen E = 0) (kp : KeyPair E) : kp.element ≠ 0 :=
  fun h => kp.secret_zmod_ne_zero ((Element.smul_eq_zero_iff hG Element.gen_ne_zero).mp h)

lemma image_ne_zero_iff (hG : E.n • Element.gen E = 0) (kp : KeyPair E) :
    kp.image ≠ 0 ↔ kp.element.hashed ≠ 0 := by
  have hH := kp.element.hashed_killed hG
  constructor
  · intro h h0
    rw [image, h0, smul_zero] at h
    exact h rfl
  · intro h h0
    exact kp.secret_zmod_ne_zero ((Element.smul_eq_zero_iff hH h).mp h0)

lemma image_inSubgroup_iff (hG : E.n • Element.gen E = 0) (kp : KeyPair E) :
    E.inSubgroup kp.image = .ok true ↔ kp.element.hashed ≠ 0 := by
  have hkilled := Element.smul_killed (kp.element.hashed_killed hG) kp.secret
  rw [← KeyPair.image] at hkilled
  rw [Element.inSubgroup_coe_iff hkilled, image_ne_zero_iff hG]

lemma exists_coordinates (hG : E.n • Element.gen E = 0) (kp : KeyPair E) :
    ∃ x y, kp.key = .affine x y ∧ (kp.element.hashed = 0 ↔ (x + y) % E.p % E.n = 0) := by
  have hcoe := kp.coe_element
  cases hkey : kp.key with
  | infinity =>
    rw [hkey] at hcoe
    exact absurd (Element.coe_eq_infinity.mp hcoe) (kp.element_ne_zero hG)
  | affine x y =>
    refine ⟨x, y, rfl, ?_⟩
    rw [Element.hashed_eq_zero_iff hG, hcoe, hkey, Point.coordinateSum]

end KeyPair

namespace RingSignature

variable {kp : KeyPair E} {ring : List Point} {s : ℕ} {c r : List ℤ}

lemma closed_sum {image : Point} (hs : s < c.length) (h : ℤ) :
    (closed kp image s c r h).c.sum % E.n = h % E.n := by
  have hset : s < (c.set s ((h - others s c) % E.n)).length := by simpa
  rw [closed, ← List.CommMonoid.add_sum_eraseIdx hset, List.getElem_set_self,
    List.eraseIdx_set_eq, ← others, Int.emod_add_emod, sub_add_cancel]

lemma closed_fits [NeZero E.n] {image : Point} {h : ℤ} (hc : c.length = ring.length)
    (hr : r.length = ring.length) (hcr : ∀ x ∈ c, 0 ≤ x ∧ x < E.n)
    (hrr : ∀ x ∈ r, 0 ≤ x ∧ x < E.n) : (closed kp image s c r h).Fits E ring where
  shares := by simp [closed, hc]
  responses := by simp [closed, hr]
  share_range x hx := by
    rcases List.mem_or_eq_of_mem_set hx with hx | rfl
    · exact hcr x hx
    · exact emod_range _
  response_range x hx := by
    obtain ⟨i, hi, rfl⟩ := List.getElem_of_mem hx
    simp only [closed, List.getElem_modify]
    split_ifs
    · exact emod_range _
    · exact hrr _ (List.getElem_mem _)

/-- The verifier finds the commitments of the signer again, at every member. -/
lemma commitments_closed [Fact E.p.Prime] (hG : E.n • Element.gen E = 0)
    (hring : ∀ Y ∈ ring, E.Contains Y) (hs : ring[s]? = some kp.key) (h : ℤ) :
    commitments E ring (closed kp kp.image s c r h) =
      signerCommitments E kp.image s ring c r := by
  unfold commitments signerCommitments closed
  refine Outcome.mapM_congr (List.ext_getElem (by simp) fun i h₁ h₂ => ?_)
  simp only [List.length_map, List.length_zip, List.length_zipIdx] at h₂
  obtain ⟨Y, hY⟩ : ∃ Y : E.Element, (Y : Point) = ring[i] :=
    ⟨⟨ring[i], hring _ (List.getElem_mem _)⟩, rfl⟩
  simp only [List.getElem_map, List.getElem_zip, List.getElem_zipIdx, Nat.zero_add, ← hY]
  by_cases hi : i = s
  swap
  · rw [List.getElem_set_ne (Ne.symm hi), List.getElem_modify_ne _ _ (Ne.symm hi),
      signerCommitment_of_ne _ _ hi]
  subst hi
  obtain rfl : Y = kp.element := by
    rw [List.getElem?_eq_getElem (by omega), ← hY, Option.some.injEq, ← kp.coe_element] at hs
    exact Element.coe_inj.mp hs
  rw [List.getElem_set_self, List.getElem_modify_eq, commitment_coe, signerCommitment_self]
  have hL := Element.corrected hG r[i] ((h - others i c) % E.n) kp.secret
  have hR := Element.corrected (kp.element.hashed_killed hG) r[i] ((h - others i c) % E.n) kp.secret
  rw [← KeyPair.element] at hL
  rw [← KeyPair.image] at hR
  rw [hL, hR]

lemma verify_closed [Fact E.p.Prime] [Fact E.n.Prime] (hG : E.n • Element.gen E = 0) {m : Message}
    (hs : ring[s]? = some kp.key) (hc : c.length = ring.length) (hr : r.length = ring.length)
    (hcr : ∀ x ∈ c, 0 ≤ x ∧ x < E.n) (hrr : ∀ x ∈ r, 0 ≤ x ∧ x < E.n)
    {pairs : List (Point × Point)} {h : ℕ}
    (hpairs : signerCommitments E kp.image s ring c r = .ok pairs)
    (hh : Challenge.value E m (pairs.map Prod.fst) (pairs.map Prod.snd) = .ok h) :
    ∃ v, verify E m ring (closed kp kp.image s c r h) = .ok v ∧
      (v = .accepted ↔
        E.inSubgroup kp.image = .ok true ∧ ∀ Y ∈ ring, E.inSubgroup Y = .ok true) := by
  have hslen : s < ring.length := (List.getElem?_eq_some_iff.mp hs).1
  have hne : ring ≠ [] := List.ne_nil_of_length_pos (by omega)
  have hfits : (closed kp kp.image s c r h).Fits E ring := closed_fits hc hr hcr hrr
  have hsum : (closed kp kp.image s c r h).c.sum % E.n = h % E.n :=
    closed_sum (hc.symm ▸ hslen) h
  have hring := contains_of_signerCommitments hpairs hc hr
  rw [← commitments_closed hG hring hs] at hpairs
  obtain ⟨b₁, hb₁⟩ := inSubgroup_total (E := E) kp.image
  obtain ⟨b₂, hb₂⟩ := allInSubgroup_total (E := E) ring
  refine ⟨_, verify_of_fits hne hfits hb₁ hb₂ hpairs hh, ?_⟩
  rw [← allInSubgroup_iff, if_pos hsum.symm]
  rw [hb₁, hb₂]
  cases b₁ <;> cases b₂ <;> simp

/-- **Completeness, exactly.** The verdict on a signature that the signer returned is acceptance if
and only if every member is in the subgroup and the second generator of the signer's key is finite,
for any ring, with duplicates or not. -/
theorem verify_of_sign (hE : E.PrimeOrder) {m : Message} {kp : KeyPair E} {ring : List Point}
    {index : ℤ} {draws : ℕ → ℤ} {σ : RingSignature}
    (hsign : (sign m kp ring index draws).outcome = .ok σ) :
    ∃ x y, kp.key = .affine x y ∧
      (E.hashToPoint kp.key = .ok .infinity ↔ (x + y) % E.p % E.n = 0) ∧
      ∃ v, verify E m ring σ = .ok v ∧
        (v = .accepted ↔
          (∀ Y ∈ ring, E.inSubgroup Y = .ok true) ∧ (x + y) % E.p % E.n ≠ 0) := by
  have := Fact.mk hE.p_prime
  have := Fact.mk hE.n_prime
  have hG := hE.killed
  obtain ⟨s, -, hs, hclose⟩ := sign_outcome_iff.mp hsign
  obtain ⟨image, pairs, h, himage, hpairs, hh, rfl⟩ := close_eq_ok_iff.mp hclose
  obtain rfl : ↑kp.image = image := Except.ok.inj (kp.keyImage_eq.symm.trans himage)
  obtain ⟨x, y, hxy, hhashed⟩ := kp.exists_coordinates hG
  obtain ⟨v, hv, hiff⟩ := verify_closed hG hs (drawn_length draws _ _) (drawn_length draws _ _)
    (drawn_range draws _ _) (drawn_range draws _ _) hpairs hh
  refine ⟨x, y, hxy, ?_, v, hv, ?_⟩
  · rw [← kp.coe_element, hashToPoint_coe, Except.ok.injEq, Element.coe_eq_infinity, hhashed]
  · rw [hiff, kp.image_inSubgroup_iff hG, and_comm, ne_eq, hhashed]

/-- The key of the signer stands in the ring twice. -/
theorem verify_of_sign_curve19 :
    curve19.PrimeOrder ∧
      (sign (.text "vote") keyPair19 [.affine 13 12, .affine 12 3, .affine 13 12] 2
        fun i => 5 * i * i + 3).outcome = .ok ⟨.affine 13 7, [3, 1, 3], [6, 6, 1]⟩ ∧
      verify curve19 (.text "vote") [.affine 13 12, .affine 12 3, .affine 13 12]
        ⟨.affine 13 7, [3, 1, 3], [6, 6, 1]⟩ = .ok .accepted := by
  have hsign : (sign (.text "vote") keyPair19 [.affine 13 12, .affine 12 3, .affine 13 12] 2
      fun i => 5 * i * i + 3).outcome = .ok ⟨.affine 13 7, [3, 1, 3], [6, 6, 1]⟩ := by
    decide +kernel
  obtain ⟨x, y, hxy, -, v, hv, hiff⟩ := verify_of_sign curve19_primeOrder hsign
  obtain ⟨rfl, rfl⟩ : 13 = x ∧ 12 = y := Point.affine.inj hxy
  rw [hiff.mpr ⟨by decide +kernel, by decide⟩] at hv
  exact ⟨curve19_primeOrder, hsign, hv⟩

end RingSignature

end RingBallot
