import RingBallot.Proofs.Curve.Order
import RingBallot.Signature.Single

/-!
Signatures of one key. A nonce gives a signature when three equations hold, and both sides come
down to them: the signer returns what one of its nonces gives, and the verifier accepts what some
nonce gives. So a pair is accepted exactly when the signer can produce it.
-/

namespace RingBallot

open RingBallot.Residue RingBallot.Curve

lemma Scheme.attemptCount_pos {scheme : Scheme} {count : ℕ}
    (h : scheme.attemptCount = .ok count) : 0 < count := by
  have hpos := scheme.attempts_pos
  unfold Scheme.attemptCount at h
  rcases hs : scheme.attempts with b | n | x
  · rw [hs] at h hpos
    cases h
    cases b
    · exact absurd hpos (by decide)
    · decide
  · rw [hs] at h hpos
    cases h
    rw [Number.below_int, decide_eq_false_iff_not] at hpos
    omega
  · rw [hs] at h
    cases h

namespace Signature

lemma outside?_eq_none_iff {order : ℤ} {σ : Signature} : σ.outside? order = none ↔
    (1 ≤ σ.r ∧ σ.r ≤ order - 1) ∧ (1 ≤ σ.s ∧ σ.s ≤ order - 1) := by
  unfold outside?
  split_ifs <;> simp_all

variable {E : Curve}

/-- The nonce `k` gives `σ` for the digest `e` and the secret `d`. -/
structure Gives (E : Curve) (e d k : ℤ) (σ : Signature) : Prop where
  nonce : 0 < k ∧ k < E.n
  r_range : 0 < σ.r ∧ σ.r < E.n
  s_range : 0 < σ.s ∧ σ.s < E.n
  abscissa : ∃ x y, E.baseMul k = .ok (.affine x y) ∧ x % E.n = σ.r
  equation : (k * σ.s : ZMod E.n) = e + d * σ.r

/-! ### The signer -/

lemma sign_outcome_iff {m : Message} {d : ℤ} {scheme : Scheme} {draws : ℕ → ℤ} {σ : Signature} :
    (sign E m d scheme draws).outcome = .ok σ ↔
      ∃ e count, m.number = .ok e ∧ scheme.attemptCount = .ok count ∧
        (search E scheme.attempts e (d % E.n) draws count 0).outcome = .ok σ := by
  unfold sign
  rcases he : m.number with f | e
  · simp
  · rcases hc : scheme.attemptCount with f | count <;> simp

lemma search_of_trial {limit : Number} {e d : ℤ} {draws : ℕ → ℤ} {left taken : ℕ} {σ : Signature}
    (h : trial E e d (draws taken % E.n) = .ok (.ok σ)) :
    search E limit e d draws (left + 1) taken = ⟨.ok σ, taken + 1, []⟩ := by
  rw [search, h]
  rfl

lemma exists_trial_of_search {limit : Number} {e d : ℤ} {draws : ℕ → ℤ} {left taken : ℕ}
    {σ : Signature} (h : (search E limit e d draws left taken).outcome = .ok σ) :
    ∃ j, trial E e d (draws j % E.n) = .ok (.ok σ) := by
  induction left generalizing taken with
  | zero => simp [search] at h
  | succ left ih =>
    rw [search] at h
    rcases ht : trial E e d (draws taken % E.n) with f | why | τ
    · simp [ht] at h
    · rw [ht] at h
      exact ih h
    · rw [ht] at h
      cases h
      exact ⟨taken, ht⟩

section Prime

variable [Fact E.p.Prime] [Fact E.n.Prime]

omit [Fact E.p.Prime] in
lemma exists_trial_eq {e d k x y : ℤ} (hk : 0 < k ∧ k < E.n)
    (hR : E.baseMul k = .ok (.affine x y)) :
    ∃ w : ℕ, (k * w : ZMod E.n) = 1 ∧ trial E e d k = .ok
      (if x % E.n = 0 then .error .zeroR
      else if w * (e + d * (x % E.n)) % E.n = 0 then .error .zeroS
      else .ok ⟨x % E.n, w * (e + d * (x % E.n)) % E.n⟩) := by
  obtain ⟨w, hw, hwz⟩ := inverse_spec (zmod_ne_zero hk.1 hk.2)
  refine ⟨w, hwz, ?_⟩
  rw [trial, if_neg hk.1.ne', hR, Outcome.ok_bind]
  simp only [hw, Outcome.ok_bind, Outcome.pure_eq]
  split_ifs <;> rfl

lemma trial_eq_ok_iff {e d k : ℤ} (hk : 0 ≤ k ∧ k < E.n) {σ : Signature} :
    trial E e d k = .ok (.ok σ) ↔ Gives E e d k σ := by
  by_cases hk0 : k = 0
  · rw [trial, if_pos hk0]
    exact ⟨nofun, fun h => absurd hk0 h.nonce.1.ne'⟩
  have hkpos : 0 < k := by omega
  rcases hR : (k • Element.gen E : E.Element) with ⟨_ | ⟨x, y⟩, hx⟩
  · -- no abscissa to take
    have hbase : E.baseMul k = .ok .infinity := by rw [baseMul_coe, hR]
    rw [trial, if_neg hk0, hbase]
    refine ⟨nofun, fun h => ?_⟩
    obtain ⟨x, y, hxy, -⟩ := h.abscissa
    rw [hbase] at hxy
    cases hxy
  have hbase : E.baseMul k = .ok (.affine x y) := by rw [baseMul_coe, hR]
  obtain ⟨w, hwz, htrial⟩ := exists_trial_eq (e := e) (d := d) ⟨hkpos, hk.2⟩ hbase
  rw [htrial, Except.ok.injEq]
  have hr := emod_range (p := E.n) x
  have hs := emod_range (p := E.n) (w * (e + d * (x % E.n)))
  constructor
  · intro h
    split_ifs at h with hr0 hs0
    cases h
    refine ⟨⟨hkpos, hk.2⟩, ⟨lt_of_le_of_ne hr.1 (Ne.symm hr0), hr.2⟩,
      ⟨lt_of_le_of_ne hs.1 (Ne.symm hs0), hs.2⟩, ⟨x, y, hbase, rfl⟩, ?_⟩
    rw [ZMod.intCast_mod]
    push_cast
    linear_combination (e + d * (x : ZMod E.n)) * hwz
  · intro h
    obtain ⟨x', y', hxy, hxr⟩ := h.abscissa
    rw [hbase] at hxy
    cases hxy
    have hss : w * (e + d * (x % E.n)) % E.n = σ.s := by
      rw [emod_eq_iff h.s_range.1.le h.s_range.2, hxr]
      push_cast
      linear_combination (σ.s : ZMod E.n) * hwz - w * h.equation
    have hr1 := h.r_range.1
    have hs1 := h.s_range.1
    rw [hss, hxr, if_neg hr1.ne', if_neg hs1.ne']

lemma gives_of_sign {m : Message} {d : ℤ} {scheme : Scheme} {draws : ℕ → ℤ} {σ : Signature}
    (h : (sign E m d scheme draws).outcome = .ok σ) :
    ∃ e j, m.number = .ok e ∧ Gives E e (d % E.n) (draws j % E.n) σ := by
  obtain ⟨e, count, he, -, hsearch⟩ := sign_outcome_iff.mp h
  obtain ⟨j, hj⟩ := exists_trial_of_search hsearch
  exact ⟨e, j, he, (trial_eq_ok_iff (emod_range _)).mp hj⟩

lemma sign_of_gives {m : Message} {d k : ℤ} {scheme : Scheme} {count e : ℕ} {σ : Signature}
    (hcount : scheme.attemptCount = .ok count) (he : m.number = .ok e)
    (h : Gives E e (d % E.n) k σ) : (sign E m d scheme fun _ => k).outcome = .ok σ := by
  refine sign_outcome_iff.mpr ⟨e, count, he, hcount, ?_⟩
  obtain ⟨left, rfl⟩ := Nat.exists_eq_succ_of_ne_zero (Scheme.attemptCount_pos hcount).ne'
  have htrial : trial E e (d % E.n) (k % E.n) = .ok (.ok σ) := by
    rw [Int.emod_eq_of_lt h.nonce.1.le h.nonce.2]
    exact (trial_eq_ok_iff ⟨h.nonce.1.le, h.nonce.2⟩).mpr h
  rw [search_of_trial htrial]

end Prime

/-! ### The verifier -/

lemma verify_accepted_iff {m : Message} {Y : Point} {σ : Signature} :
    verify E m Y σ = .ok .accepted ↔
      E.inSubgroup Y = .ok true ∧ σ.outside? E.n = none ∧
        ∃ e x y, m.number = .ok e ∧ combined E e Y σ = .ok (.affine x y) ∧
          E.Contains (.affine x y) ∧ x % E.n = σ.r := by
  unfold verify
  rcases hY : E.inSubgroup Y with f | _ | _
  · simp
  · simp
  rcases ho : σ.outside? E.n with _ | c
  swap
  · simp
  rcases he : m.number with f | e
  · simp
  rcases hX : combined E e Y σ with f | _ | ⟨x, y⟩
  · simp [hX]
  · simp [hX]
  simp only [Outcome.ok_bind, hX]
  split_ifs with hc hr <;> simp_all

section Prime

variable [Fact E.p.Prime] [Fact E.n.Prime]

/-! ### Division by the second scalar -/

section Division

variable {e : ℕ} {Q X X' : E.Element} {r s : ℤ}

/-- The point `X` is what is divided by the second scalar, divided by it. -/
structure Divides (e : ℕ) (Q : E.Element) (r s : ℤ) (X : E.Element) : Prop where
  killed : E.n • X = 0
  equation : s • X = (e : ℤ) • Element.gen E + r • Q

lemma exists_divides (hG : E.n • Element.gen E = 0) (hQ : E.n • Q = 0)
    (hs : (s : ZMod E.n) ≠ 0) :
    ∃ X : E.Element, Divides e Q r s X ∧ combined E e Q ⟨r, s⟩ = .ok ↑X := by
  obtain ⟨w, hw, hwz⟩ := inverse_spec hs
  set Z : E.Element := (e : ℤ) • Element.gen E + r • Q with hZ
  have hkilled : E.n • Z = 0 := by
    rw [hZ, smul_add, Element.smul_killed hG, Element.smul_killed hQ, add_zero]
  have hsum : (e * w % E.n : ℤ) • Element.gen E + (r * w % E.n : ℤ) • Q = (w : ℤ) • Z := by
    rw [Element.smul_emod hG, Element.smul_emod hQ, hZ, smul_add, mul_comm (e : ℤ), mul_comm r,
      mul_zsmul, mul_zsmul]
  have hone : (s * w) • Z = (1 : ℤ) • Z := Element.smul_congr hkilled (by push_cast; exact hwz)
  refine ⟨(w : ℤ) • Z, ⟨Element.smul_killed hkilled _, ?_⟩, ?_⟩
  · rw [← mul_zsmul, hone, one_zsmul]
  · rw [combined, hw]
    simp only [Outcome.ok_bind, baseMul_coe, mul_coe, add_coe, hsum]

lemma Divides.unique (hs : (s : ZMod E.n) ≠ 0) (h : Divides e Q r s X) (h' : Divides e Q r s X') :
    X = X' := by
  have hkilled : E.n • (X - X') = 0 := by rw [smul_sub, h.killed, h'.killed, sub_zero]
  have hzero : s • (X - X') = 0 := by rw [smul_sub, h.equation, h'.equation, sub_self]
  by_contra hne
  exact hs ((Element.smul_eq_zero_iff hkilled (sub_ne_zero.mpr hne)).mp hzero)

lemma combined_eq_ok_iff (hG : E.n • Element.gen E = 0) (hQ : E.n • Q = 0)
    (hs : (s : ZMod E.n) ≠ 0) {P : Point} :
    combined E e Q ⟨r, s⟩ = .ok P ↔ ∃ X : E.Element, (X : Point) = P ∧ Divides e Q r s X := by
  obtain ⟨X₀, h₀, hX₀⟩ := exists_divides (e := e) (r := r) hG hQ hs
  rw [hX₀, Except.ok.injEq]
  constructor
  · rintro rfl
    exact ⟨X₀, rfl, h₀⟩
  · rintro ⟨X, rfl, h⟩
    rw [h₀.unique hs h]

end Division

/-- The verifier finds the multiple of the generator by any `k` that solves the equation. -/
lemma combined_eq (hG : E.n • Element.gen E = 0) {e : ℕ} {d k : ℤ} {σ : Signature}
    (hs : (σ.s : ZMod E.n) ≠ 0) (hk : (k * σ.s : ZMod E.n) = (e : ℤ) + d * σ.r) :
    combined E e ↑(d • Element.gen E) σ = .ok ↑(k • Element.gen E) := by
  refine (combined_eq_ok_iff hG (Element.smul_killed hG d) hs).mpr
    ⟨_, rfl, Element.smul_killed hG k, ?_⟩
  rw [← mul_zsmul', ← mul_zsmul', ← add_zsmul]
  apply Element.smul_congr hG
  push_cast at hk ⊢
  linear_combination hk

/-! ### Acceptance -/

/-- **The verifier accepts what some nonce gives.** -/
lemma verify_iff_gives (hG : E.n • Element.gen E = 0) {m : Message} {d : ℤ}
    (hd : (d : ZMod E.n) ≠ 0) {σ : Signature} :
    verify E m ↑(d • Element.gen E) σ = .ok .accepted ↔
      ∃ e k, m.number = .ok e ∧ Gives E (e : ℕ) d k σ := by
  rw [verify_accepted_iff, outside?_eq_none_iff]
  constructor
  · rintro ⟨-, ⟨hr, hs⟩, e, x, y, he, hX, -, hxr⟩
    have hs0 := zmod_ne_zero (p := E.n) (x := σ.s) (by omega) (by omega)
    obtain ⟨w, -, hwz⟩ := inverse_spec hs0
    obtain ⟨k, hkdef⟩ : ∃ k : ℤ, k = w * (e + d * σ.r) % E.n := ⟨_, rfl⟩
    have hk : (k * σ.s : ZMod E.n) = (e : ℤ) + d * σ.r := by
      rw [hkdef, ZMod.intCast_mod]
      push_cast
      linear_combination (e + d * σ.r : ZMod E.n) * hwz
    rw [combined_eq hG hs0 hk, Except.ok.injEq] at hX
    have hrange := emod_range (p := E.n) (w * (e + d * σ.r))
    rw [← hkdef] at hrange
    -- the nonce zero would give infinity
    have hk0 : k ≠ 0 := by
      rintro rfl
      rw [zero_zsmul, Element.coe_zero] at hX
      cases hX
    exact ⟨e, k, he, ⟨by omega, hrange.2⟩, by omega, by omega,
      ⟨x, y, by rw [baseMul_coe, hX], hxr⟩, hk⟩
  · rintro ⟨e, k, he, h⟩
    obtain ⟨x, y, hxy, hxr⟩ := h.abscissa
    have hr := h.r_range
    have hs := h.s_range
    have hX := combined_eq hG (zmod_ne_zero hs.1 hs.2) h.equation
    rw [baseMul_coe, Except.ok.injEq] at hxy
    rw [hxy] at hX
    refine ⟨inSubgroup_iff.mpr ⟨_, rfl, ?_, Element.smul_killed hG d⟩, ⟨by omega, by omega⟩,
      e, x, y, he, hX, hxy ▸ (k • Element.gen E).contains, hxr⟩
    exact fun h0 => hd ((Element.smul_eq_zero_iff hG Element.gen_ne_zero).mp h0)

end Prime

/-- **The verifier accepts exactly what the signer can produce**: a pair is accepted for a key if
and only if some nonce, drawn over and over, makes the signer return it. Whatever the signer
returns on any draws is accepted. -/
theorem verify_accepted_iff_sign (hE : E.PrimeOrder) (m : Message) {d : ℤ} (hd : d % E.n ≠ 0) :
    ∃ Y, E.baseMul (d % E.n) = .ok Y ∧
      (∀ (scheme : Scheme) (count : ℕ), scheme.attemptCount = .ok count → ∀ r s : ℤ,
        verify E m Y ⟨r, s⟩ = .ok .accepted ↔
          ∃ k : ℤ, 1 ≤ k ∧ k ≤ E.n - 1 ∧
            (sign E m d scheme fun _ => k).outcome = .ok ⟨r, s⟩) ∧
      ∀ (scheme : Scheme) (draws : ℕ → ℤ) (σ : Signature),
        (sign E m d scheme draws).outcome = .ok σ → verify E m Y σ = .ok .accepted := by
  have := Fact.mk hE.p_prime
  have := Fact.mk hE.n_prime
  have hG := hE.killed
  have hd' : ((d % E.n : ℤ) : ZMod E.n) ≠ 0 := by
    rw [ZMod.intCast_mod]
    exact fun h => hd (emod_eq_zero_iff.mpr h)
  refine ⟨_, baseMul_coe (d % E.n), fun scheme count hcount r s => ?_, fun scheme draws σ h => ?_⟩
  · rw [verify_iff_gives hG hd']
    constructor
    · rintro ⟨e, k, he, h⟩
      have hk := h.nonce
      exact ⟨k, by omega, by omega, sign_of_gives hcount he h⟩
    · rintro ⟨k, -, -, h⟩
      obtain ⟨e, -, he, h⟩ := gives_of_sign h
      exact ⟨e, _, he, h⟩
  · obtain ⟨e, j, he, h⟩ := gives_of_sign h
    exact (verify_iff_gives hG hd').mpr ⟨e, _, he, h⟩

/-- A secret that is not reduced, and two zero nonces before the one that is used. -/
theorem verify_accepted_iff_sign_curve19 :
    curve19.PrimeOrder ∧ (-4 : ℤ) % curve19.n ≠ 0 ∧
      ∃ Y, curve19.baseMul (-4 % curve19.n) = .ok Y ∧
        (sign curve19 (.text "vote") (-4) .default fun i => [0, 7, -2].getD i 0).outcome =
          .ok ⟨6, 1⟩ ∧
        verify curve19 (.text "vote") Y ⟨6, 1⟩ = .ok .accepted ∧
        ∃ k : ℤ, 1 ≤ k ∧ k ≤ curve19.n - 1 ∧
          (sign curve19 (.text "vote") (-4) .default fun _ => k).outcome = .ok ⟨6, 1⟩ := by
  have hd : (-4 : ℤ) % curve19.n ≠ 0 := by decide
  obtain ⟨Y, hY, hiff, hsign⟩ := verify_accepted_iff_sign curve19_primeOrder (.text "vote") hd
  have hσ : (sign curve19 (.text "vote") (-4) .default fun i => [0, 7, -2].getD i 0).outcome =
      .ok ⟨6, 1⟩ := by decide +kernel
  have hv := hsign _ _ _ hσ
  exact ⟨curve19_primeOrder, hd, Y, hY, hσ, hv, (hiff .default 64 rfl 6 1).mp hv⟩

end Signature

end RingBallot
