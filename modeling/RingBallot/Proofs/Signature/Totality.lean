import RingBallot.Proofs.Curve.Encoding
import RingBallot.Proofs.Signature.Ring.Basic
import RingBallot.Proofs.Signature.Single

/-!
Verification comes to an end with a verdict, for hostile input as for honest. The guards leave only
points of the curve, sums and multiples of which never fail and stay on the curve, and only scalars
that are not zero modulo the order, for which the power that stands for an inverse is defined
whether the order is prime or not.
-/

namespace RingBallot

open RingBallot.Residue RingBallot.Curve

/-! ### Messages and challenges -/

namespace Message

/-- Texts and byte strings can be signed. -/
def Signable (m : Message) : Prop := ∀ kind, m ≠ other kind

lemma toBytes_total {m : Message} (hm : m.Signable) : ∃ bs, m.toBytes = .ok bs := by
  cases m with
  | text s => exact ⟨_, rfl⟩
  | bytes bs => exact ⟨bs, rfl⟩
  | other kind => exact absurd rfl (hm kind)

lemma number_total {m : Message} (hm : m.Signable) : ∃ e, m.number = .ok e :=
  Outcome.bind_total (toBytes_total hm) fun _ _ => ⟨_, rfl⟩

lemma signable_of_number {m : Message} {e : ℕ} (he : m.number = .ok e) : m.Signable := by
  rintro kind rfl
  cases he

end Message

variable {E : Curve}

lemma Challenge.value_total (h256 : E.p ≤ 2 ^ 256) {m : Message} (hm : m.Signable)
    {L R : List Point} (hL : ∀ P ∈ L, E.Contains P) (hR : ∀ P ∈ R, E.Contains P) :
    ∃ h, value E m L R = .ok h := by
  have hinput : ∃ bs, input E m L R = .ok bs := by
    refine Outcome.bind_total (Message.toBytes_total hm) fun _ _ => ?_
    refine Outcome.bind_total (Outcome.mapM_total fun P hP => compress_total h256 (hL P hP))
      fun _ _ => ?_
    exact Outcome.bind_total (Outcome.mapM_total fun P hP => compress_total h256 (hR P hP))
      fun _ _ => ⟨_, rfl⟩
  exact Outcome.bind_total hinput fun _ _ => ⟨_, rfl⟩

section Prime

variable [Fact E.p.Prime]

/-! ### Single signatures -/

namespace Signature

lemma combined_total {Y : Point} (hY : E.Contains Y) {σ : Signature}
    (hs : 1 ≤ σ.s ∧ σ.s ≤ E.n - 1) (e : ℕ) : ∃ X, combined E e Y σ = .ok X := by
  lift Y to E.Element using hY
  have hne : Residue.of σ.s E.n ≠ 0 := by
    rw [Residue.of, Int.emod_eq_of_lt (by omega) (by omega)]
    omega
  refine Outcome.bind_total ⟨_, inverse_of_ne hne⟩ fun w _ => ?_
  simp

lemma verify_total {m : Message} (hm : m.Signable) (Y : Point) (σ : Signature) :
    ∃ v, verify E m Y σ = .ok v := by
  refine Outcome.bind_total (inSubgroup_total Y) fun b hY => ?_
  cases b
  · exact ⟨.rejected .keyOutside, rfl⟩
  rcases ho : σ.outside? E.n with _ | c
  swap
  · exact ⟨.rejected (.component c), rfl⟩
  obtain ⟨-, hs⟩ := outside?_eq_none_iff.mp ho
  refine Outcome.bind_total (Message.number_total hm) fun e _ => ?_
  refine Outcome.bind_total (combined_total (contains_of_inSubgroup hY) hs e) fun X _ => ?_
  cases X with
  | infinity => exact ⟨.rejected .degenerate, rfl⟩
  | affine x y =>
    dsimp only
    split_ifs <;> exact ⟨_, rfl⟩

end Signature

/-! ### Ring signatures -/

namespace RingSignature

lemma verify_total (h256 : E.p ≤ 2 ^ 256) {m : Message} (hm : m.Signable) (ring : List Point)
    (σ : RingSignature) : ∃ v, verify E m ring σ = .ok v := by
  by_cases hfits : ring = [] ∨ ¬ σ.Fits E ring
  · obtain ⟨why, hwhy⟩ := verify_of_not_fits (m := m) hfits
    exact ⟨_, hwhy⟩
  obtain ⟨hne, hσ⟩ := not_or.mp hfits
  rw [verify_eq_of_fits hne (not_not.mp hσ)]
  refine Outcome.bind_total (inSubgroup_total _) fun b₁ himage => ?_
  cases b₁
  · exact ⟨.rejected .imageOutside, rfl⟩
  refine Outcome.bind_total (allInSubgroup_total _) fun b₂ hmembers => ?_
  cases b₂
  · exact ⟨.rejected .memberOutside, rfl⟩
  have himage := contains_of_inSubgroup himage
  have hring (Y : Point) (hY : Y ∈ ring) : E.Contains Y :=
    contains_of_inSubgroup (allInSubgroup_iff.mp hmembers Y hY)
  refine Outcome.bind_total (commitments_total hring himage) fun pairs hpairs => ?_
  have hLR := contains_of_commitments hring himage hpairs
  refine Outcome.bind_total (Challenge.value_total h256 hm ?_ ?_) fun h _ => ?_
  · exact List.forall_mem_map.mpr fun LR hmem => (hLR LR hmem).1
  · exact List.forall_mem_map.mpr fun LR hmem => (hLR LR hmem).2
  · split_ifs <;> exact ⟨_, rfl⟩

end RingSignature

end Prime

/-- **Verification never fails**, whatever the order that is claimed: every key, ring and signature
has a verdict. Only the challenge of a ring asks for a modulus whose residues fit their bytes. -/
theorem exists_verdict (hp : E.p.Prime) {m : Message} (hm : m.Signable) :
    (∀ (Y : Point) (σ : Signature), ∃ v, Signature.verify E m Y σ = .ok v) ∧
      (E.p ≤ 2 ^ 256 → ∀ (ring : List Point) (σ : RingSignature),
        ∃ v, RingSignature.verify E m ring σ = .ok v) := by
  have := Fact.mk hp
  exact ⟨Signature.verify_total hm, fun h256 => RingSignature.verify_total h256 hm⟩

/-- The curve of 28 points with twice the order of its generator. -/
def curve19Even : Curve := { curve19 with n := 14, valid := by decide }

/-- A key and a key image of order two pass the check of the subgroup here, and a scalar 7 has no
inverse, so that the combined point is infinity. -/
theorem exists_verdict_curve19Even :
    curve19Even.p.Prime ∧ Message.Signable (.text "vote") ∧ curve19Even.p ≤ 2 ^ 256 ∧
      curve19Even.inSubgroup (.affine 0 0) = .ok true ∧
      (∃ v, Signature.verify curve19Even (.text "vote") (.affine 0 0) ⟨2, 7⟩ = .ok v) ∧
      ∃ v, RingSignature.verify curve19Even (.text "vote") [.affine 0 0, .affine 13 12]
        ⟨.affine 0 0, [3, 4], [5, 6]⟩ = .ok v := by
  have hp : curve19Even.p.Prime := curve19_primeOrder.p_prime
  have hm : Message.Signable (.text "vote") := nofun
  have h256 : curve19Even.p ≤ 2 ^ 256 := by decide
  obtain ⟨hsingle, hring⟩ := exists_verdict hp hm
  exact ⟨hp, hm, h256, by decide +kernel, hsingle _ _, hring h256 _ _⟩

end RingBallot
