import Mathlib.NumberTheory.LegendreSymbol.QuadraticReciprocity
import Mathlib.Tactic.NormNum.Prime
import RingBallot.Proofs.Residue.Prime
import RingBallot.Residue.Sqrt

/-!
The square root modulo an odd prime. Each of the three methods returns a number whose square is
the one asked for, and none of them fails on a square. That the result is a root needs no prime
where it is computed by powers of the number itself or by correction; that there is a result does.
-/

namespace RingBallot.Residue

variable {p : ℕ}

lemma zmod_power (b e : ℕ) : ((power b e p : ℕ) : ZMod p) = (b : ZMod p) ^ e := by
  rw [power_eq, ZMod.natCast_mod, Nat.cast_pow]

lemma power_lt [NeZero p] (b e : ℕ) : power b e p < p := by
  rw [power_eq]
  exact Nat.mod_lt _ (Nat.pos_of_neZero p)

lemma eq_one_iff (hp : 1 < p) {t : ℕ} (ht : t < p) : t = 1 ↔ (t : ZMod p) = 1 := by
  have h := (CharP.natCast_injOn_Iio (ZMod p) p).eq_iff ht hp
  rw [Nat.cast_one] at h
  exact h.symm

lemma isSquare_eq_true_iff (hp : 1 < p) {v : ℤ} :
    isSquare v p = true ↔ (v : ZMod p) = 0 ∨ (v : ZMod p) ^ ((p - 1) / 2) = 1 := by
  have : NeZero p := ⟨by omega⟩
  rw [isSquare, Bool.or_eq_true, decide_eq_true_iff, decide_eq_true_iff, of_eq_zero_iff,
    eq_one_iff hp (power_lt _ _), zmod_power, zmod_of]

/-! ### Correction -/

lemma zmod_squared (t j : ℕ) : ((t * t % p : ℕ) : ZMod p) ^ 2 ^ j = (t : ZMod p) ^ 2 ^ (j + 1) := by
  rw [ZMod.natCast_mod, Nat.cast_mul, ← pow_two, ← pow_mul, ← pow_succ']

lemma orderLog_some (hp : 1 < p) {m t : ℕ} (ht : t < p) {i : Fin m} (h : orderLog p m t = some i) :
    (t : ZMod p) ^ 2 ^ (i : ℕ) = 1 ∧ ∀ j < (i : ℕ), (t : ZMod p) ^ 2 ^ j ≠ 1 := by
  induction m generalizing t with
  | zero => cases h
  | succ m ih =>
    rw [orderLog] at h
    split_ifs at h with h1
    · cases h
      exact ⟨by simp [h1], by simp⟩
    · obtain ⟨k, hk, rfl⟩ := Option.map_eq_some_iff.mp h
      obtain ⟨hone, hleast⟩ := ih (Nat.mod_lt _ (by omega)) hk
      rw [zmod_squared] at hone
      refine ⟨hone, fun j hj => ?_⟩
      rcases j with _ | j
      · rwa [pow_zero, pow_one, ne_eq, ← eq_one_iff hp ht]
      · rw [← zmod_squared]
        exact hleast j (by simpa using hj)

lemma orderLog_none (hp : 1 < p) {m t : ℕ} (ht : t < p) (h : orderLog p m t = none) {j : ℕ}
    (hj : j < m) : (t : ZMod p) ^ 2 ^ j ≠ 1 := by
  induction m generalizing t j with
  | zero => omega
  | succ m ih =>
    rw [orderLog] at h
    split_ifs at h with h1
    rcases j with _ | j
    · rwa [pow_zero, pow_one, ne_eq, ← eq_one_iff hp ht]
    · have hrest := ih (Nat.mod_lt _ (by omega)) (Option.map_eq_none_iff.mp h) (show j < m by omega)
      rwa [zmod_squared] at hrest

/-- A correction keeps `r² = v t`, and at the end the error is gone. -/
lemma refine_ok [NeZero p] {v : ZMod p} {m c t r w : ℕ} (h : refine p m c t r = .ok w) (hr : r < p)
    (hv : (r * r : ZMod p) = v * t) : w < p ∧ (w * w : ZMod p) = v := by
  induction m using Nat.strongRecOn generalizing c t r with
  | _ m ih =>
    rw [refine] at h
    split_ifs at h with h1
    · cases h
      exact ⟨hr, by rw [hv, h1, Nat.cast_one, mul_one]⟩
    · split at h
      · cases h
      · rename_i i _
        refine ih i i.isLt h (Nat.mod_lt _ (Nat.pos_of_neZero p)) ?_
        simp only [ZMod.natCast_mod, Nat.cast_mul]
        linear_combination (power c (2 ^ (m - i - 1)) p : ZMod p) ^ 2 * hv

/-! ### The three methods -/

lemma tonelliShanks_ok (hp : 1 < p) {v w : ℕ} (h : tonelliShanks v p = .ok w) :
    w < p ∧ (w * w : ZMod p) = v := by
  have : NeZero p := ⟨by omega⟩
  have hodd := oddPart_odd (n := p - 1) (by omega)
  unfold tonelliShanks at h
  generalize oddPart (p - 1) = qs at h hodd
  obtain ⟨q, s⟩ := qs
  simp only at h hodd
  split_ifs at h
  refine refine_ok h (power_lt _ _) ?_
  rw [zmod_power, zmod_power, ← pow_add, ← pow_succ']
  congr 1
  omega

/-- Outside one class of moduli the result squares to the number, prime or not. -/
lemma sqrt_ok (hp : 1 < p) (h5 : p % 8 ≠ 5) {v : ℤ} {w : ℕ} (h : sqrt v p = .ok w) :
    w < p ∧ (w * w : ZMod p) = v := by
  have : NeZero p := ⟨by omega⟩
  unfold sqrt at h
  simp only [Bool.not_eq_true', if_neg h5] at h
  split_ifs at h with h0 hsq h3
  · cases h
    exact ⟨by omega, by rw [of_eq_zero_iff.mp h0]; simp⟩
  · cases h
    rw [Bool.not_eq_false, isSquare_eq_true_iff hp, Int.cast_natCast, zmod_of] at hsq
    have hone := hsq.resolve_left (mt of_eq_zero_iff.mpr h0)
    refine ⟨power_lt _ _, ?_⟩
    calc ((power (of v p) ((p + 1) / 4) p : ℕ) * (power (of v p) ((p + 1) / 4) p : ℕ) : ZMod p)
        = (v : ZMod p) ^ ((p - 1) / 2 + 1) := by
          rw [zmod_power, zmod_of, ← pow_add]
          congr 1
          omega
      _ = v := by rw [pow_succ, hone, one_mul]
  · rw [← zmod_of]
    exact tonelliShanks_ok hp h

section Prime

variable [hp : Fact p.Prime]

/-- What a correction starts from: `c` has order `2 ^ m`, and the order of the error `t` is less. -/
structure Correctable (p m c t : ℕ) : Prop where
  pos : 0 < m
  lt : t < p
  order : (c : ZMod p) ^ 2 ^ (m - 1) = -1
  error : (t : ZMod p) ^ 2 ^ (m - 1) = 1

/-- A correction by a power of `c` leaves an error of lower order. -/
lemma Correctable.step {m c t i : ℕ} (h : Correctable p m c t) (hi : i < m) (hi0 : 0 < i)
    (hone : (t : ZMod p) ^ 2 ^ i = 1) (hleast : (t : ZMod p) ^ 2 ^ (i - 1) ≠ 1) {b : ℕ}
    (hb : b = power c (2 ^ (m - i - 1)) p) :
    Correctable p i (b * b % p) (t * (b * b % p) % p) := by
  have hc : ((b * b % p : ℕ) : ZMod p) ^ 2 ^ (i - 1) = -1 := by
    rw [zmod_squared, hb, zmod_power, ← pow_mul, ← pow_add, ← h.order]
    congr 2
    omega
  have ht : (t : ZMod p) ^ 2 ^ (i - 1) = -1 := by
    have hsq : (t : ZMod p) ^ 2 ^ (i - 1) * (t : ZMod p) ^ 2 ^ (i - 1) = 1 := by
      rw [← pow_add, ← two_mul, ← pow_succ', Nat.sub_add_cancel hi0, hone]
    exact (mul_self_eq_one_iff.mp hsq).resolve_left hleast
  refine ⟨hi0, Nat.mod_lt _ hp.out.pos, hc, ?_⟩
  rw [ZMod.natCast_mod, Nat.cast_mul, mul_pow, hc, ht]
  ring

lemma exists_refine {m c t r : ℕ} (h : Correctable p m c t) : ∃ w, refine p m c t r = .ok w := by
  have h1 := hp.out.one_lt
  induction m using Nat.strongRecOn generalizing c t r with
  | _ m ih =>
    rw [refine]
    split_ifs with ht
    · exact ⟨r, rfl⟩
    · split
      · rename_i hnone
        have hm := h.pos
        exact absurd h.error (orderLog_none h1 h.lt hnone (by omega))
      · rename_i i hi
        obtain ⟨hone, hleast⟩ := orderLog_some h1 h.lt hi
        have hi0 : 0 < (i : ℕ) := by
          refine Nat.pos_of_ne_zero fun hi0 => ht ?_
          rwa [hi0, pow_zero, pow_one, ← eq_one_iff h1 h.lt] at hone
        exact ih i i.isLt (h.step i.isLt hi0 hone (hleast _ (by omega)) rfl)

/-! ### A root of every square -/

lemma half_pred (h2 : p ≠ 2) : (p - 1) / 2 = p / 2 := by
  have := hp.out.eq_two_or_odd
  omega

lemma isSquare_iff (h2 : p ≠ 2) {v : ℤ} : isSquare v p = true ↔ IsSquare (v : ZMod p) := by
  rw [isSquare_eq_true_iff hp.out.one_lt, half_pred h2]
  by_cases h0 : (v : ZMod p) = 0
  · simp [h0]
  · rw [ZMod.euler_criterion p h0]
    exact or_iff_right h0

lemma nonSquare_lt (h2 : p ≠ 2) : nonSquare p 2 < p := by
  by_contra hle
  obtain ⟨z, hz⟩ := FiniteField.exists_nonsquare (F := ZMod p) (by rwa [ZMod.ringChar_zmod_n])
  have hval : ((z.val : ℤ) : ZMod p) = z := by rw [Int.cast_natCast, ZMod.natCast_zmod_val]
  have hz2 : 2 ≤ z.val := by
    by_contra hlt
    interval_cases h : z.val
    · exact hz ⟨0, by rw [← hval]; simp⟩
    · exact hz ⟨1, by rw [← hval]; simp⟩
  have hlt := z.val_lt
  have hsq := isSquare_of_lt_nonSquare hz2 (by omega : z.val < nonSquare p 2)
  rw [isSquare_iff h2, hval] at hsq
  exact hz hsq

lemma nonSquare_power (h2 : p ≠ 2) : ((nonSquare p 2 : ℕ) : ZMod p) ^ ((p - 1) / 2) = -1 := by
  have hno := isSquare_nonSquare (nonSquare_lt h2)
  rw [← Bool.not_eq_true, isSquare_eq_true_iff hp.out.one_lt, not_or, Int.cast_natCast] at hno
  rw [half_pred h2] at hno ⊢
  exact (ZMod.pow_div_two_eq_neg_one_or_one p hno.1).resolve_left hno.2

lemma exists_tonelliShanks (h2 : p ≠ 2) {v : ℕ} (hv : (v : ZMod p) ^ ((p - 1) / 2) = 1) :
    ∃ w, tonelliShanks v p = .ok w := by
  have hodd := hp.out.eq_two_or_odd
  have h1 := hp.out.one_lt
  have hz := nonSquare_lt h2
  have hq := oddPart_odd (n := p - 1) (by omega)
  have hmul := oddPart_mul (p - 1)
  unfold tonelliShanks
  generalize oddPart (p - 1) = qs at hq hmul ⊢
  obtain ⟨q, s⟩ := qs
  simp only at hq hmul ⊢
  have hs : 0 < s := by
    refine Nat.pos_of_ne_zero fun hs => ?_
    rw [hs, pow_zero, mul_one] at hmul
    omega
  have hhalf : q * 2 ^ (s - 1) = (p - 1) / 2 := by
    have htwice : q * 2 ^ (s - 1) * 2 = p - 1 := by
      rw [mul_assoc, ← pow_succ, Nat.sub_add_cancel hs, hmul]
    omega
  rw [if_neg (by omega), if_neg (by omega)]
  refine exists_refine ⟨hs, power_lt _ _, ?_, ?_⟩
  · rw [zmod_power, ← pow_mul, hhalf, nonSquare_power h2]
  · rw [zmod_power, ← pow_mul, hhalf, hv]

lemma two_power_of_five (h5 : p % 8 = 5) : (2 : ZMod p) ^ ((p - 1) / 2) = -1 := by
  have h0 : (2 : ZMod p) ≠ 0 := by
    have := (ZMod.natCast_eq_zero_iff 2 p).not.mpr (Nat.not_dvd_of_pos_of_lt two_pos (by omega))
    exact_mod_cast this
  have hno : ¬ IsSquare (2 : ZMod p) := by
    rw [ZMod.exists_sq_eq_two_iff (by omega)]
    omega
  rw [ZMod.euler_criterion p h0] at hno
  rw [half_pred (by omega)]
  exact (ZMod.pow_div_two_eq_neg_one_or_one p h0).resolve_left hno

/-- The square of the power is the number or its opposite; in the second case a root of -1 mends
it. -/
lemma corrected_root (h5 : p % 8 = 5) {v : ℕ} (hv : (v : ZMod p) ^ ((p - 1) / 2) = 1) {w : ℕ}
    (hw : w = power v ((p + 3) / 8) p) (hne : (w * w : ZMod p) ≠ v) :
    ((w * power 2 ((p - 1) / 4) p : ℕ) * (w * power 2 ((p - 1) / 4) p : ℕ) : ZMod p) = v := by
  have hfour : (w * w * (w * w) : ZMod p) = v * v := by
    rw [hw, zmod_power]
    calc _ = (v : ZMod p) ^ ((p - 1) / 2 + 2) := by
          rw [← pow_add, ← pow_add]
          congr 1
          omega
      _ = v * v := by rw [pow_add, hv, one_mul, pow_two]
  have hopp : (w * w : ZMod p) = -v := (mul_self_eq_mul_self_iff.mp hfour).resolve_left hne
  have htwo : (2 : ZMod p) ^ ((p - 1) / 4) * 2 ^ ((p - 1) / 4) = -1 := by
    rw [← two_power_of_five h5, ← pow_add]
    congr 1
    omega
  push_cast
  rw [zmod_power, Nat.cast_ofNat]
  linear_combination hopp * 2 ^ ((p - 1) / 4) * 2 ^ ((p - 1) / 4) - v * htwo

lemma power_of_isSquare (h2 : p ≠ 2) {v : ℤ} (hv : IsSquare (v : ZMod p)) (h0 : of v p ≠ 0) :
    isSquare (of v p) p = true ∧ ((of v p : ℕ) : ZMod p) ^ ((p - 1) / 2) = 1 := by
  have hsq : isSquare (of v p) p = true := by
    rw [isSquare_iff h2, Int.cast_natCast, zmod_of]
    exact hv
  have hone := (isSquare_eq_true_iff hp.out.one_lt).mp hsq
  rw [Int.cast_natCast, zmod_of, ← of_eq_zero_iff] at hone
  exact ⟨hsq, by rw [zmod_of]; exact hone.resolve_left h0⟩

lemma exists_sqrt (h2 : p ≠ 2) {v : ℤ} (hv : IsSquare (v : ZMod p)) : ∃ w, sqrt v p = .ok w := by
  unfold sqrt
  by_cases h0 : of v p = 0
  · exact ⟨0, by simp only [if_pos h0]; rfl⟩
  obtain ⟨hsq, hone⟩ := power_of_isSquare h2 hv h0
  simp only [if_neg h0, hsq, Bool.not_true, Bool.false_eq_true, if_false]
  split_ifs with h3 h5 hroot
  · exact ⟨_, rfl⟩
  · exact ⟨_, rfl⟩
  · exact ⟨_, rfl⟩
  · exact exists_tonelliShanks h2 hone

lemma sqrt_of_five (h5 : p % 8 = 5) {v : ℤ} (hv : IsSquare (v : ZMod p)) {w : ℕ}
    (h : sqrt v p = .ok w) : w < p ∧ (w * w : ZMod p) = v := by
  have hpos := hp.out.pos
  by_cases h0 : of v p = 0
  · simp only [sqrt, if_pos h0, Outcome.pure_eq, Except.ok.injEq] at h
    subst h
    exact ⟨hpos, by rw [of_eq_zero_iff.mp h0]; simp⟩
  obtain ⟨hsq, hone⟩ := power_of_isSquare (by omega) hv h0
  have h4 : ¬ p % 4 = 3 := by omega
  simp only [sqrt, if_neg h0, hsq, Bool.not_true, Bool.false_eq_true, if_false, if_neg h4,
    if_pos h5, Outcome.pure_eq, Except.ok.injEq] at h
  rw [← zmod_of (p := p) v]
  split_ifs at h with hroot
  · subst h
    refine ⟨power_lt _ _, ?_⟩
    rw [← Nat.cast_mul, ← ZMod.natCast_mod, hroot]
  · subst h
    refine ⟨Nat.mod_lt _ hpos, ?_⟩
    rw [ZMod.natCast_mod]
    refine corrected_root h5 hone rfl fun heq => hroot ?_
    rw [← Nat.cast_mul, ← ZMod.natCast_mod] at heq
    exact CharP.natCast_injOn_Iio (ZMod p) p (Nat.mod_lt _ hpos) (of_lt hpos v) heq

/-- **Every square has a root, and it is found.** -/
lemma sqrt_of_isSquare (h2 : p ≠ 2) {v : ℤ} (hv : IsSquare (v : ZMod p)) :
    ∃ w, sqrt v p = .ok w ∧ w < p ∧ (w * w : ZMod p) = v := by
  obtain ⟨w, hw⟩ := exists_sqrt h2 hv
  by_cases h5 : p % 8 = 5
  · exact ⟨w, hw, sqrt_of_five h5 hv hw⟩
  · exact ⟨w, hw, sqrt_ok hp.out.one_lt h5 hw⟩

lemma sqrt_of_not_isSquare (h2 : p ≠ 2) {v : ℤ} (hv : ¬ IsSquare (v : ZMod p)) :
    sqrt v p = .error .noSquareRoot := by
  have h0 : of v p ≠ 0 := fun h0 => hv (by rw [of_eq_zero_iff.mp h0]; exact IsSquare.zero)
  have hno : isSquare (of v p) p = false := by
    rw [← Bool.not_eq_true, isSquare_iff h2, Int.cast_natCast, zmod_of]
    exact hv
  simp only [sqrt, if_neg h0, hno, Bool.not_false, if_true]
  rfl

end Prime

/-! ### Roots of whole numbers -/

/-- Some whole number has a square congruent to `v`. A multiple of `p` has the root zero. -/
def HasRoot (p : ℕ) (v : ℤ) : Prop := ∃ u : ℤ, u * u ≡ v [ZMOD p]

lemma hasRoot_iff_isSquare {v : ℤ} : HasRoot p v ↔ IsSquare (v : ZMod p) := by
  constructor
  · rintro ⟨u, hu⟩
    have h := (ZMod.intCast_eq_intCast_iff _ _ p).mpr hu
    exact ⟨u, by rw [← h, Int.cast_mul]⟩
  · rintro ⟨z, hz⟩
    obtain ⟨u, rfl⟩ := ZMod.intCast_surjective z
    refine ⟨u, (ZMod.intCast_eq_intCast_iff _ _ p).mp ?_⟩
    rw [hz, Int.cast_mul]

/-- **The square root modulo an odd prime**, by whichever of the three methods. Euler's criterion
tells the numbers with a root from those without, for the former a root is returned, the latter are
refused. On the way there the search for a number without a root ends below the modulus, and the
correction of a root does not fail. -/
theorem sqrt_of_prime (hp : p.Prime) (h2 : p ≠ 2) (v : ℤ) :
    (isSquare v p = true ↔ HasRoot p v) ∧
      (HasRoot p v → ∃ r, sqrt v p = .ok r ∧ r < p ∧ (r * r : ℤ) ≡ v [ZMOD p]) ∧
      (¬ HasRoot p v → (sqrt v p).Fails .invalidEncoding) ∧
      (nonSquare p 2 < p ∧ isSquare (nonSquare p 2) p = false) ∧
      ∀ u : ℕ, u % p ≠ 0 → isSquare u p = true → ∃ r, tonelliShanks u p = .ok r := by
  have := Fact.mk hp
  have hsearch := nonSquare_lt h2
  rw [hasRoot_iff_isSquare]
  refine ⟨isSquare_iff h2, fun h => ?_, fun h => ?_, ⟨hsearch, isSquare_nonSquare hsearch⟩,
    fun u h0 hu => ?_⟩
  · obtain ⟨r, hr, hlt, hrr⟩ := sqrt_of_isSquare h2 h
    refine ⟨r, hr, hlt, (ZMod.intCast_eq_intCast_iff _ _ p).mp ?_⟩
    push_cast
    exact hrr
  · exact ⟨.noSquareRoot, sqrt_of_not_isSquare h2 h, rfl⟩
  · apply exists_tonelliShanks h2
    rw [isSquare_eq_true_iff hp.one_lt, Int.cast_natCast] at hu
    refine hu.resolve_left fun h => h0 ?_
    exact Nat.mod_eq_zero_of_dvd ((ZMod.natCast_eq_zero_iff u p).mp h)

/-- A negative number modulo 7, one whose power has to be mended modulo 13, a chain of corrections
modulo 97, and a number without a root. -/
theorem sqrt_of_prime_methods :
    (Nat.Prime 7 ∧ HasRoot 7 (-5) ∧ ∃ r, sqrt (-5) 7 = .ok r ∧ r < 7 ∧ r * r ≡ -5 [ZMOD 7]) ∧
      (Nat.Prime 13 ∧ HasRoot 13 25 ∧ ∃ r, sqrt 25 13 = .ok r ∧ r < 13 ∧ r * r ≡ 25 [ZMOD 13]) ∧
      (Nat.Prime 97 ∧ HasRoot 97 (-95) ∧
        ∃ r, sqrt (-95) 97 = .ok r ∧ r < 97 ∧ r * r ≡ -95 [ZMOD 97]) ∧
      ¬ HasRoot 97 5 ∧ (sqrt 5 97).Fails .invalidEncoding := by
  have h7 : Nat.Prime 7 := by norm_num
  have h13 : Nat.Prime 13 := by norm_num
  have h97 : Nat.Prime 97 := by norm_num
  have hroot7 : HasRoot 7 (-5) := ⟨3, by decide⟩
  have hroot13 : HasRoot 13 25 := ⟨5, by decide⟩
  have hroot97 : HasRoot 97 (-95) := ⟨14, by decide⟩
  obtain ⟨hiff, -, hnone, -⟩ := sqrt_of_prime h97 (by decide) 5
  have hno : ¬ HasRoot 97 5 := fun h => absurd (hiff.mpr h) (by decide +kernel)
  exact ⟨⟨h7, hroot7, (sqrt_of_prime h7 (by decide) (-5)).2.1 hroot7⟩,
    ⟨h13, hroot13, (sqrt_of_prime h13 (by decide) 25).2.1 hroot13⟩,
    ⟨h97, hroot97, (sqrt_of_prime h97 (by decide) (-95)).2.1 hroot97⟩, hno, hnone hno⟩

end RingBallot.Residue
