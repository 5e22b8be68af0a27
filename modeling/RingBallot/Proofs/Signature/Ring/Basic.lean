import RingBallot.Proofs.KeyPair
import RingBallot.Signature.Ring

/-!
What the signer and the verifier of a ring compute, in the group. The commitments of a member are
two sums, and a run of the signer or an acceptance by the verifier is taken apart into its steps.
-/

namespace RingBallot

open RingBallot.Residue RingBallot.Curve

variable {E : Curve}

namespace RingSignature

/-! ### Ranges -/

lemma firstOutside_eq_none_iff {order : ℤ} {l : List (ℤ × ℤ)} {i : ℕ} :
    firstOutside order i l = none ↔
      ∀ x ∈ l, (0 ≤ x.1 ∧ x.1 < order) ∧ (0 ≤ x.2 ∧ x.2 < order) := by
  induction l generalizing i with
  | nil => simp [firstOutside]
  | cons x rest ih =>
    rw [List.forall_mem_cons, ← ih (i := i + 1), firstOutside]
    split_ifs with hc hr
    · have : (0 ≤ x.1 ∧ x.1 < order) ∧ (0 ≤ x.2 ∧ x.2 < order) := by omega
      simp [this]
    · have : ¬ (0 ≤ x.2 ∧ x.2 < order) := by omega
      simp [this]
    · have : ¬ (0 ≤ x.1 ∧ x.1 < order) := by omega
      simp [this]

/-- One share and one response for each member, all of them reduced. -/
structure Fits (E : Curve) (ring : List Point) (σ : RingSignature) : Prop where
  shares : σ.c.length = ring.length
  responses : σ.r.length = ring.length
  share_range : ∀ x ∈ σ.c, 0 ≤ x ∧ x < E.n
  response_range : ∀ x ∈ σ.r, 0 ≤ x ∧ x < E.n

/-- Where there are as many scalars as members, the walk over the pairs misses none. -/
lemma fits_iff {ring : List Point} {σ : RingSignature} (hc : σ.c.length = ring.length)
    (hr : σ.r.length = ring.length) : σ.Fits E ring ↔ σ.outside? E.n = none := by
  have hfst : (σ.c.zip σ.r).map Prod.fst = σ.c := List.map_fst_zip (by omega)
  have hsnd : (σ.c.zip σ.r).map Prod.snd = σ.r := List.map_snd_zip (by omega)
  rw [outside?, firstOutside_eq_none_iff]
  constructor
  · intro h x hx
    obtain ⟨hx₁, hx₂⟩ := List.of_mem_zip hx
    exact ⟨h.share_range _ hx₁, h.response_range _ hx₂⟩
  · intro h
    refine ⟨hc, hr, ?_, ?_⟩
    · rw [← hfst, List.forall_mem_map]
      exact fun x hx => (h x hx).1
    · rw [← hsnd, List.forall_mem_map]
      exact fun x hx => (h x hx).2

/-! ### Commitments -/

section Prime

variable [Fact E.p.Prime]

/-- The commitments of a member: `r G + c Y`, and the same for the second generator and the
image. -/
lemma commitment_coe (image Y : E.Element) (c r : ℤ) :
    commitment E image Y c r =
      .ok (↑(r • Element.gen E + c • Y), ↑(r • Y.hashed + c • image)) := by
  simp [commitment]

lemma signerCommitment_of_ne (image Y : E.Element) {s i : ℕ} (hi : i ≠ s) (c r : ℤ) :
    signerCommitment E image s i Y c r = commitment E image Y c r := by
  simp [signerCommitment, commitment, hi]

lemma signerCommitment_self (image : Point) (Y : E.Element) (s : ℕ) (c r : ℤ) :
    signerCommitment E image s s Y c r = .ok (↑(r • Element.gen E), ↑(r • Y.hashed)) := by
  simp [signerCommitment]

lemma commitments_total {ring : List Point} {σ : RingSignature} (hring : ∀ Y ∈ ring, E.Contains Y)
    (himage : E.Contains σ.keyImage) : ∃ pairs, commitments E ring σ = .ok pairs := by
  refine Outcome.mapM_total fun x hx => ?_
  have hY := hring _ (List.of_mem_zip hx).1
  exact ⟨_, commitment_coe ⟨_, himage⟩ ⟨_, hY⟩ _ _⟩

lemma contains_of_commitments {ring : List Point} {σ : RingSignature} {pairs : List (Point × Point)}
    (hring : ∀ Y ∈ ring, E.Contains Y) (himage : E.Contains σ.keyImage)
    (h : commitments E ring σ = .ok pairs) : ∀ LR ∈ pairs, E.Contains LR.1 ∧ E.Contains LR.2 := by
  refine Outcome.forall_of_mapM h fun x hx LR hLR => ?_
  have hY := hring _ (List.of_mem_zip hx).1
  rw [commitment_coe ⟨_, himage⟩ ⟨_, hY⟩] at hLR
  cases hLR
  exact ⟨Element.contains _, Element.contains _⟩

end Prime

lemma contains_of_signerCommitment {image Y : Point} {s i : ℕ} {c r : ℤ} {LR : Point × Point}
    (h : signerCommitment E image s i Y c r = .ok LR) : E.Contains Y := by
  by_contra hY
  obtain ⟨_, -, h⟩ := Outcome.bind_eq_ok.mp h
  obtain ⟨_, hH, -⟩ := Outcome.bind_eq_ok.mp h
  obtain ⟨_, hreq, -⟩ := Outcome.bind_eq_ok.mp hH
  rw [E.require_of_not_contains hY] at hreq
  cases hreq

/-! ### The signer -/

variable (E) in
def signerCommitments (image : Point) (s : ℕ) (ring : List Point) (c r : List ℤ) :
    Outcome (List (Point × Point)) :=
  (ring.zip (c.zip r)).zipIdx.mapM fun x =>
    signerCommitment E image s x.2 x.1.1 x.1.2.1 x.1.2.2

/-- The signature that closes the drawn lists for the challenge `h`. -/
def closed (kp : KeyPair E) (image : Point) (s : ℕ) (c r : List ℤ) (h : ℤ) : RingSignature :=
  let share := (h - others s c) % E.n
  ⟨image, c.set s share, r.modify s fun x => (x - share * kp.secret) % E.n⟩

lemma close_eq_ok_iff {m : Message} {kp : KeyPair E} {ring : List Point} {s : ℕ} {c r : List ℤ}
    {σ : RingSignature} : close m kp ring s c r = .ok σ ↔
      ∃ image pairs h, kp.keyImage = .ok image ∧ signerCommitments E image s ring c r = .ok pairs ∧
        Challenge.value E m (pairs.map Prod.fst) (pairs.map Prod.snd) = .ok h ∧
        closed kp image s c r h = σ := by
  constructor
  · intro hclose
    obtain ⟨image, himage, hclose⟩ := Outcome.bind_eq_ok.mp hclose
    obtain ⟨pairs, hpairs, hclose⟩ := Outcome.bind_eq_ok.mp hclose
    obtain ⟨h, hh, hclose⟩ := Outcome.bind_eq_ok.mp hclose
    exact ⟨image, pairs, h, himage, hpairs, hh, Except.ok.inj hclose⟩
  · rintro ⟨image, pairs, h, himage, hpairs, hh, rfl⟩
    exact Outcome.bind_eq_ok.mpr ⟨image, himage, Outcome.bind_eq_ok.mpr ⟨pairs, hpairs,
      Outcome.bind_eq_ok.mpr ⟨h, hh, rfl⟩⟩⟩

variable (E) in
/-- The `count` numbers that stand in the sequence from number `start` on, reduced. -/
def drawn (draws : ℕ → ℤ) (start count : ℕ) : List ℤ :=
  (List.range count).map fun i => draws (start + i) % E.n

/-- Each number of the sequence is taken in its turn, and none is left out. -/
lemma draw_eq (draws : ℕ → ℤ) (count taken : ℕ) :
    draw E draws count taken = (drawn E draws taken count, taken + count) := by
  induction count generalizing taken with
  | zero => rfl
  | succ count ih =>
    simp only [draw, ih, drawn, List.range_succ_eq_map, List.map_cons, List.map_map,
      Function.comp_def, Nat.add_zero, Nat.succ_eq_add_one, Nat.add_assoc, Nat.add_comm 1]

lemma drawn_length (draws : ℕ → ℤ) (start count : ℕ) :
    (drawn E draws start count).length = count := by
  simp [drawn]

lemma drawn_range [NeZero E.n] (draws : ℕ → ℤ) (start count : ℕ) :
    ∀ x ∈ drawn E draws start count, 0 ≤ x ∧ x < E.n := by
  intro x hx
  obtain ⟨i, -, rfl⟩ := List.mem_map.mp hx
  exact emod_range _

/-- At the place of the own key one number is drawn for each share, then one for each response. -/
lemma sign_eq_close {m : Message} {kp : KeyPair E} {ring : List Point} {s : ℕ} {draws : ℕ → ℤ}
    (hs : ring[s]? = some kp.key) : sign m kp ring s draws =
      ⟨close m kp ring s (drawn E draws 0 ring.length) (drawn E draws ring.length ring.length),
        2 * ring.length, []⟩ := by
  obtain ⟨hlt, -⟩ := List.getElem?_eq_some_iff.mp hs
  have hindex : (0 : ℤ) ≤ s ∧ (s : ℤ) < ring.length := by omega
  simp [sign, hindex, hs, draw_eq, two_mul]

lemma sign_outcome_iff {m : Message} {kp : KeyPair E} {ring : List Point} {index : ℤ}
    {draws : ℕ → ℤ} {σ : RingSignature} : (sign m kp ring index draws).outcome = .ok σ ↔
      ∃ s : ℕ, index = s ∧ ring[s]? = some kp.key ∧
        close m kp ring s (drawn E draws 0 ring.length) (drawn E draws ring.length ring.length) =
          .ok σ := by
  constructor
  · intro h
    by_cases hindex : 0 ≤ index ∧ index < ring.length
    swap
    · simp [sign, hindex] at h
    obtain ⟨s, rfl⟩ := Int.eq_ofNat_of_zero_le hindex.1
    by_cases hs : ring[s]? = some kp.key
    swap
    · simp [sign, hindex, hs] at h
    rw [sign_eq_close hs] at h
    exact ⟨s, rfl, hs, h⟩
  · rintro ⟨s, rfl, hs, h⟩
    rw [sign_eq_close hs, h]

lemma contains_of_signerCommitments {image : Point} {s : ℕ} {ring : List Point} {cs rs : List ℤ}
    {pairs : List (Point × Point)} (h : signerCommitments E image s ring cs rs = .ok pairs)
    (hc : cs.length = ring.length) (hr : rs.length = ring.length) :
    ∀ Y ∈ ring, E.Contains Y := by
  intro Y hY
  obtain ⟨i, hi, rfl⟩ := List.getElem_of_mem hY
  have hmem : ((ring[i], cs[i], rs[i]), i) ∈ (ring.zip (cs.zip rs)).zipIdx := by
    rw [List.mk_mem_zipIdx_iff_getElem?, List.getElem?_eq_some_iff]
    exact ⟨by simp; omega, by simp⟩
  obtain ⟨LR, hLR⟩ := Outcome.exists_ok_of_mapM h hmem
  exact contains_of_signerCommitment hLR

/-! ### The verifier -/

lemma allInSubgroup_iff {ring : List Point} :
    allInSubgroup E ring = .ok true ↔ ∀ Y ∈ ring, E.inSubgroup Y = .ok true := by
  induction ring with
  | nil => simp [allInSubgroup]
  | cons P rest ih =>
    rw [allInSubgroup]
    rcases hP : E.inSubgroup P with f | _ | _ <;> simp [hP, ih]

lemma allInSubgroup_total [Fact E.p.Prime] (ring : List Point) :
    ∃ b, allInSubgroup E ring = .ok b := by
  induction ring with
  | nil => exact ⟨true, rfl⟩
  | cons P rest ih =>
    obtain ⟨b, hb⟩ := inSubgroup_total (E := E) P
    rw [allInSubgroup, hb]
    cases b
    · exact ⟨false, rfl⟩
    · exact ih

lemma verify_of_not_fits {m : Message} {ring : List Point} {σ : RingSignature}
    (h : ring = [] ∨ ¬ σ.Fits E ring) : ∃ why, verify E m ring σ = .ok (.rejected why) := by
  unfold verify
  by_cases hempty : ring.isEmpty
  · exact ⟨.emptyRing, by rw [if_pos hempty]; rfl⟩
  by_cases hsize : σ.c.length ≠ ring.length ∨ σ.r.length ≠ ring.length
  · exact ⟨.size _ _ _, by rw [if_neg hempty, if_pos hsize]; rfl⟩
  rw [if_neg hempty, if_neg hsize]
  have hfits : ¬ σ.Fits E ring := h.resolve_left (by simpa using hempty)
  rw [fits_iff (by omega) (by omega)] at hfits
  obtain ⟨c, hc⟩ := Option.ne_none_iff_exists'.mp hfits
  exact ⟨.component c, by rw [hc]; rfl⟩

lemma verify_eq_of_fits {m : Message} {ring : List Point} {σ : RingSignature} (hne : ring ≠ [])
    (hσ : σ.Fits E ring) : verify E m ring σ = do
      if !(← E.inSubgroup σ.keyImage) then return .rejected .imageOutside
      if !(← allInSubgroup E ring) then return .rejected .memberOutside
      let pairs ← commitments E ring σ
      let h ← Challenge.value E m (pairs.map Prod.fst) (pairs.map Prod.snd)
      if (h : ℤ) % E.n = σ.c.sum % E.n then return .accepted else return .rejected .equation := by
  have hempty : ring.isEmpty = false := by simpa using hne
  have hsize : ¬ (σ.c.length ≠ ring.length ∨ σ.r.length ≠ ring.length) := by
    simp [hσ.shares, hσ.responses]
  unfold verify
  rw [hempty, if_neg hsize, (fits_iff hσ.shares hσ.responses).mp hσ]
  rfl

lemma verify_of_fits {m : Message} {ring : List Point} {σ : RingSignature} (hne : ring ≠ [])
    (hσ : σ.Fits E ring) {b₁ b₂ : Bool} (h₁ : E.inSubgroup σ.keyImage = .ok b₁)
    (h₂ : allInSubgroup E ring = .ok b₂) {pairs : List (Point × Point)} {h : ℕ}
    (hpairs : commitments E ring σ = .ok pairs)
    (hh : Challenge.value E m (pairs.map Prod.fst) (pairs.map Prod.snd) = .ok h) :
    verify E m ring σ = .ok
      (if b₁ = false then .rejected .imageOutside
        else if b₂ = false then .rejected .memberOutside
        else if (h : ℤ) % E.n = σ.c.sum % E.n then .accepted
        else .rejected .equation) := by
  rw [verify_eq_of_fits hne hσ]
  cases b₁
  · simp [h₁]
  cases b₂
  · simp [h₁, h₂]
  simp only [h₁, h₂, hpairs, hh, Outcome.ok_bind]
  split_ifs <;> simp_all

lemma of_verify_accepted {m : Message} {ring : List Point} {σ : RingSignature}
    (h : verify E m ring σ = .ok .accepted) :
    σ.Fits E ring ∧ E.inSubgroup σ.keyImage = .ok true ∧ (∀ Y ∈ ring, E.inSubgroup Y = .ok true) ∧
      ∃ (pairs : List (Point × Point)) (e : ℕ), commitments E ring σ = .ok pairs ∧
        Challenge.value E m (pairs.map Prod.fst) (pairs.map Prod.snd) = .ok e ∧
        (e : ℤ) % E.n = σ.c.sum % E.n := by
  by_cases hfits : ring = [] ∨ ¬ σ.Fits E ring
  · obtain ⟨why, hwhy⟩ := verify_of_not_fits (m := m) hfits
    rw [hwhy] at h
    cases h
  obtain ⟨hne, hσ⟩ := not_or.mp hfits
  have hσ := not_not.mp hσ
  rw [verify_eq_of_fits hne hσ] at h
  rcases himage : E.inSubgroup σ.keyImage with f | _ | _
  · simp [himage] at h
  · simp [himage] at h
  rcases hmembers : allInSubgroup E ring with f | _ | _
  · simp [himage, hmembers] at h
  · simp [himage, hmembers] at h
  simp only [himage, hmembers, Outcome.ok_bind] at h
  obtain ⟨pairs, hpairs, h⟩ := Outcome.bind_eq_ok.mp h
  obtain ⟨e, he, h⟩ := Outcome.bind_eq_ok.mp h
  refine ⟨hσ, rfl, allInSubgroup_iff.mp hmembers, pairs, e, hpairs, he, ?_⟩
  by_contra hne
  simp [hne] at h

end RingSignature

end RingBallot
