import Mathlib.Data.List.GetD
import RingBallot.Proofs.Signature.Ring.Completeness

/-!
The draws behind an accepted signature. Whoever holds the secret of a member and makes the image
that a signature carries could have drawn its shares as they are, and its responses but for the
correction of the own one. The commitments come out as the verifier recomputes them, so does the
challenge, and the signature is the one that is returned.
-/

namespace RingBallot

open RingBallot.Residue RingBallot.Curve

namespace RingSignature

variable {E : Curve} {ring : List Point} {s : ℕ} {c r : List ℤ}

/-- The responses from which the signer comes to `r`: its own one is not yet corrected by its
share. -/
def uncorrected (kp : KeyPair E) (s : ℕ) (c r : List ℤ) : List ℤ :=
  r.modify s fun x => (x + c.getD s 0 * kp.secret) % E.n

lemma uncorrected_length (kp : KeyPair E) (s : ℕ) (c r : List ℤ) :
    (uncorrected kp s c r).length = r.length := by
  simp [uncorrected]

lemma uncorrected_range [NeZero E.n] (kp : KeyPair E) (s : ℕ) (c : List ℤ)
    (hr : ∀ x ∈ r, 0 ≤ x ∧ x < E.n) : ∀ x ∈ uncorrected kp s c r, 0 ≤ x ∧ x < E.n := by
  intro x hx
  obtain ⟨i, hi, rfl⟩ := List.getElem_of_mem hx
  simp only [uncorrected, List.getElem_modify]
  split_ifs
  · exact emod_range _
  · exact hr _ (List.getElem_mem _)

lemma share_of_sum {l : List ℤ} (hs : s < l.length) (hrange : 0 ≤ l[s] ∧ l[s] < E.n) {h : ℤ}
    (hsum : h % E.n = l.sum % E.n) : (h - others s l) % E.n = l[s] := by
  calc (h - others s l) % E.n = (l.sum - others s l) % E.n := by
        rw [Int.sub_emod, hsum, ← Int.sub_emod]
    _ = l[s] % E.n := by
        rw [others, ← List.CommMonoid.add_sum_eraseIdx hs, add_sub_cancel_right]
    _ = l[s] := Int.emod_eq_of_lt hrange.1 hrange.2

/-- The signer comes back to the signature. -/
lemma closed_uncorrected (kp : KeyPair E) {image : Point} (hσ : Fits E ring ⟨image, c, r⟩)
    (hs : s < ring.length) {h : ℤ} (hsum : h % E.n = c.sum % E.n) :
    closed kp image s c (uncorrected kp s c r) h = ⟨image, c, r⟩ := by
  have hsc : s < c.length := hσ.shares ▸ hs
  have hshare := share_of_sum hsc (hσ.share_range _ (List.getElem_mem hsc)) hsum
  have hget := List.getD_eq_getElem c 0 hsc
  simp only [closed, hshare, RingSignature.mk.injEq, true_and]
  refine ⟨List.set_getElem_self hsc, List.ext_getElem (by simp [uncorrected]) fun i h₁ h₂ => ?_⟩
  have hr := hσ.response_range _ (List.getElem_mem h₂)
  simp only [uncorrected, List.getElem_modify, hget]
  split_ifs
  · rw [Int.emod_sub_emod, add_sub_cancel_right, Int.emod_eq_of_lt hr.1 hr.2]
  · rfl

lemma drawn_getD (before : List ℤ) {l : List ℤ} (hl : ∀ x ∈ l, 0 ≤ x ∧ x < E.n) (after : List ℤ)
    (rest : ℕ → ℤ) :
    drawn E (fun i => (before ++ l ++ after).getD i (rest i)) before.length l.length = l := by
  refine List.ext_getElem (by simp [drawn]) fun i h₁ h₂ => ?_
  have hi := hl _ (List.getElem_mem h₂)
  have hget (z : ℤ) : (before ++ l ++ after).getD (before.length + i) z = l[i] := by
    rw [List.getD_eq_getElem _ _ (by simp; omega), List.getElem_append_left (by simp; omega),
      List.getElem_append_right (by omega)]
    simp
  simp only [drawn, List.getElem_map, List.getElem_range, hget]
  exact Int.emod_eq_of_lt hi.1 hi.2

/-- **Every accepted signature with the image of a member is one that the member could have
produced**, by as many numbers as the signer takes, whatever the source gives after them. -/
theorem sign_of_verify (hE : E.PrimeOrder) (m : Message) (kp : KeyPair E)
    (hs : ring[s]? = some kp.key) :
    ∃ image, kp.keyImage = .ok image ∧ ∀ c r : List ℤ,
      verify E m ring ⟨image, c, r⟩ = .ok .accepted →
        ∃ draws : List ℤ, draws.length = 2 * ring.length ∧ ∀ rest : ℕ → ℤ,
          sign m kp ring s (fun i => draws.getD i (rest i)) =
            ⟨.ok ⟨image, c, r⟩, 2 * ring.length, []⟩ := by
  have := Fact.mk hE.p_prime
  have := Fact.mk hE.n_prime
  refine ⟨_, kp.keyImage_eq, fun c r hverify => ?_⟩
  obtain ⟨hσ, -, hmembers, pairs, e, hpairs, he, hsum⟩ := of_verify_accepted hverify
  obtain ⟨hlt, -⟩ := List.getElem?_eq_some_iff.mp hs
  have hlen := uncorrected_length kp s c r
  -- the signer's commitments are the verifier's
  have hclosed := closed_uncorrected kp hσ hlt hsum
  rw [← hclosed, commitments_closed hE.killed
    (fun Y hY => contains_of_inSubgroup (hmembers Y hY)) hs e] at hpairs
  have hclose : close m kp ring s c (uncorrected kp s c r) = .ok ⟨kp.image, c, r⟩ :=
    close_eq_ok_iff.mpr ⟨_, pairs, e, kp.keyImage_eq, hpairs, he, hclosed⟩
  refine ⟨c ++ uncorrected kp s c r, ?_, fun rest => ?_⟩
  · rw [List.length_append, hlen, hσ.shares, hσ.responses, two_mul]
  · have hc := drawn_getD [] hσ.share_range (uncorrected kp s c r) rest
    have hr := drawn_getD c (uncorrected_range kp s c hσ.response_range) [] rest
    rw [List.nil_append, List.length_nil, hσ.shares] at hc
    rw [List.append_nil, hlen, hσ.shares, hσ.responses] at hr
    rw [sign_eq_close hs, hc, hr, hclose]

/-- Made at the last place, for a ring in which the key stands twice, and found again from the
first. -/
theorem sign_of_verify_curve19 :
    curve19.PrimeOrder ∧
      [Point.affine 13 12, .affine 12 3, .affine 13 12][0]? = some keyPair19.key ∧
      verify curve19 (.text "vote") [.affine 13 12, .affine 12 3, .affine 13 12]
        ⟨.affine 13 7, [3, 1, 3], [6, 6, 1]⟩ = .ok .accepted ∧
      ∃ draws : List ℤ, draws.length = 6 ∧ ∀ rest : ℕ → ℤ,
        sign (.text "vote") keyPair19 [.affine 13 12, .affine 12 3, .affine 13 12] (0 : ℕ)
          (fun i => draws.getD i (rest i)) =
            ⟨.ok ⟨.affine 13 7, [3, 1, 3], [6, 6, 1]⟩, 6, []⟩ := by
  have hs : [Point.affine 13 12, .affine 12 3, .affine 13 12][0]? = some keyPair19.key := rfl
  have hverify : verify curve19 (.text "vote") [.affine 13 12, .affine 12 3, .affine 13 12]
      ⟨.affine 13 7, [3, 1, 3], [6, 6, 1]⟩ = .ok .accepted := by decide +kernel
  obtain ⟨image, himage, hall⟩ := sign_of_verify curve19_primeOrder (.text "vote") keyPair19 hs
  obtain rfl : .affine 13 7 = image :=
    Except.ok.inj (himage.symm.trans (by decide +kernel)).symm
  exact ⟨curve19_primeOrder, hs, hverify, hall _ _ hverify⟩

end RingSignature

end RingBallot
