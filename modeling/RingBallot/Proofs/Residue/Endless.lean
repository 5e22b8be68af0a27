import RingBallot.Proofs.Residue.Loops

/-!
The method of Tonelli and Shanks modulo an even number, for which it was not made. There is no
factor of two to take out of `p - 1`, so there is nothing to correct an error by. The search may
find no candidate, and squarings may never take the error to one; then the loops go on for ever.
-/

namespace RingBallot.Residue

variable {p : ℕ}

/-- A residue that squarings take to one is taken there by fewer than `p` of them, because there
are fewer units than that. -/
lemma pow_ne_one_of_orderLog (hp : 1 < p) {t : ℕ} (ht : t < p) (h : orderLog p p t = none) (i : ℕ) :
    (t : ZMod p) ^ 2 ^ i ≠ 1 := by
  intro hi
  have : NeZero p := ⟨by omega⟩
  obtain ⟨u, hu⟩ : IsUnit (t : ZMod p) := IsUnit.of_pow_eq_one hi (by positivity)
  obtain ⟨j, -, hj⟩ := (Nat.dvd_prime_pow Nat.prime_two).mp (orderOf_dvd_of_pow_eq_one hi)
  have hcard : 2 ^ j ≤ p := by
    rw [← hj, ← hu, orderOf_units]
    exact orderOf_le_card_univ.trans ((ZMod.card_units_eq_totient p).le.trans (Nat.totient_le p))
  have hlt : j < p := Nat.lt_two_pow_self.trans_le hcard
  exact orderLog_none hp ht h hlt (hj ▸ pow_orderOf_eq_one _)

/-- Before the modulus is reached the candidates have begun anew. -/
lemma isSquare_of_le_nonSquare (hp : 1 < p) (h : p ≤ nonSquare p 2) (z : ℕ) :
    isSquare z p = true := by
  have hlt := Nat.mod_lt z (by omega : p > 0)
  have hmod : of z p = of (z % p : ℕ) p := by rw [of, of, Int.natCast_mod, Int.emod_emod]
  rw [isSquare, hmod, ← isSquare]
  obtain h0 | h1 | h2 : z % p = 0 ∨ z % p = 1 ∨ 2 ≤ z % p := by omega
  · rw [h0, isSquare_eq_true_iff hp]
    exact .inl (by simp)
  · rw [h1, isSquare_eq_true_iff hp]
    exact .inr (by simp)
  · exact isSquare_of_lt_nonSquare h2 (by omega)

namespace Stage

variable {v c t r i : ℕ}

lemma after_succ (v p k : ℕ) : after v p (k + 1) = turn v p (after v p k) :=
  Function.iterate_succ_apply' ..

/-- A result stays. -/
lemma result_add {k : ℕ} {o : Outcome ℕ} (h : (after v p k).result = some o) (j : ℕ) :
    (after v p (k + j)).result = some o := by
  induction j with
  | zero => exact h
  | succ j ih => rw [← Nat.add_assoc, after_succ, (turn_of_result ih).1, ih]

lemma result_eq_none_of_add {n : ℕ} (h : ∀ k, (after v p (n + k)).result = none) (k : ℕ) :
    (after v p k).result = none := by
  by_contra hk
  obtain ⟨o, ho⟩ := Option.ne_none_iff_exists'.mp hk
  have hlater := result_add ho n
  rw [Nat.add_comm, h k] at hlater
  cases hlater

/-- The squarings of the error go on until one is met. -/
lemma iterate_squaring (ht : t < p) (h : ∀ j < i, (t : ZMod p) ^ 2 ^ j ≠ 1) :
    (turn v p)^[i] (squaring 0 c t r 0 t) = squaring 0 c t r i (t ^ 2 ^ i % p) := by
  induction i with
  | zero => rw [Function.iterate_zero, id, pow_zero, pow_one, Nat.mod_eq_of_lt ht]
  | succ i ih =>
    have hne : t ^ 2 ^ i % p ≠ 1 := fun h1 => h i (by omega) <| by
      rw [← Nat.cast_pow, ← ZMod.natCast_mod, h1, Nat.cast_one]
    rw [Function.iterate_succ_apply', ih fun j hj => h j (by omega), turn, if_neg hne,
      if_neg (by omega), ← Nat.mul_mod, ← pow_add, ← two_mul, ← pow_succ']

lemma after_of_correcting {k : ℕ} (hk : after v p k = correcting 0 c t r) (ht : t < p) (h1 : t ≠ 1)
    (h : ∀ j < i, (t : ZMod p) ^ 2 ^ j ≠ 1) :
    after v p (k + 1 + i) = squaring 0 c t r i (t ^ 2 ^ i % p) := by
  rw [after, Nat.add_comm, Function.iterate_add_apply, ← after, after_succ, hk, turn, if_neg h1,
    iterate_squaring ht h]

section Even

variable (heven : p % 2 = 0) (h3 : 3 ≤ p)

include heven h3

lemma tonelliShanks_of_even (v : ℕ) : tonelliShanks v p =
    if p ≤ nonSquare p 2 then .error .endless
    else if power v (p - 1) p ≠ 1 then
      .error (if (orderLog p p (power v (p - 1) p)).isSome then .evenModulus else .endless)
    else .ok (power v ((p - 1 + 1) / 2) p) := by
  have hpart : oddPart (p - 1) = (p - 1, 0) := by rw [oddPart, if_neg (by omega)]
  simp only [tonelliShanks, hpart, true_and]
  split_ifs with hz ht
  · rfl
  · rfl
  · rfl
  · rw [refine, if_pos (not_not.mp ht)]
    rfl

/-- Candidates follow one another as long as they are squares. -/
lemma after_of_squares (v : ℕ) {k : ℕ} (h : ∀ z < 2 + k, 2 ≤ z → isSquare z p = true) :
    after v p (k + 1) = searching (p - 1) 0 (2 + k) := by
  induction k with
  | zero =>
    rw [after_succ, after, Function.iterate_zero, id, turn, if_neg (by omega)]
  | succ k ih =>
    rw [after_succ, ih fun z hz => h z (by omega), turn, if_pos (h _ (by omega) (by omega))]
    rfl

/-- From the candidate that is found on, the error is that of the number itself. -/
lemma exists_correcting (hz : nonSquare p 2 < p) (v : ℕ) : ∃ k c, after v p k =
    correcting 0 c (power v (p - 1) p) (power v ((p - 1 + 1) / 2) p) := by
  have h2 := le_nonSquare p 2
  obtain ⟨k, hk⟩ := Nat.exists_eq_add_of_le h2
  have hstage := after_of_squares heven h3 v (k := k) fun z hlt hle =>
    isSquare_of_lt_nonSquare hle (by omega)
  refine ⟨k + 2, power (nonSquare p 2) (p - 1) p, ?_⟩
  rw [after_succ, hstage, ← hk, turn, isSquare_nonSquare hz]
  rfl

lemma endless_or_result_of_even (v : ℕ) :
    (tonelliShanks v p = .error .endless ∧ ∀ k, (after v p k).result = none) ∨
      ∃ k, (after v p k).result = some (tonelliShanks v p) := by
  rw [tonelliShanks_of_even heven h3]
  by_cases hz : p ≤ nonSquare p 2
  · rw [if_pos hz]
    refine .inl ⟨rfl, result_eq_none_of_add (n := 1) fun k => ?_⟩
    rw [Nat.add_comm, after_of_squares heven h3 v fun z _ _ =>
      isSquare_of_le_nonSquare (by omega) hz z]
    rfl
  obtain ⟨k, c, hk⟩ := exists_correcting heven h3 (v := v) (by omega)
  rw [if_neg hz]
  have hlt : power v (p - 1) p < p := by
    rw [power_eq]
    exact Nat.mod_lt _ (by omega)
  generalize power v (p - 1) p = t at hk hlt ⊢
  by_cases ht : t = 1
  · rw [if_neg (not_not.mpr ht)]
    refine .inr ⟨k + 1, ?_⟩
    rw [after_succ, hk, turn, if_pos ht]
    rfl
  rw [if_pos ht]
  rcases hlog : orderLog p p t with _ | i
  · refine .inl ⟨rfl, result_eq_none_of_add (n := k + 1) fun i => ?_⟩
    rw [after_of_correcting hk hlt ht fun j _ => pow_ne_one_of_orderLog (by omega) hlt hlog j]
    rfl
  · obtain ⟨hone, hleast⟩ := orderLog_some (by omega) hlt hlog
    have hone : t ^ 2 ^ (i : ℕ) % p = 1 := by
      rw [eq_one_iff (by omega) (Nat.mod_lt _ (by omega)), ZMod.natCast_mod, Nat.cast_pow, hone]
    refine .inr ⟨k + 1 + i + 1, ?_⟩
    rw [after_succ, after_of_correcting hk hlt ht hleast, turn, if_pos hone, if_pos (by omega)]
    rfl

end Even

/-- **The loops come to what the method says**, or it says that they go on for ever, and they do.
The latter is the case for some even moduli. -/
theorem endless_or_result (h3 : 3 ≤ p) (v : ℕ) :
    (tonelliShanks v p = .error .endless ∧ p % 2 = 0 ∧ ∀ k, (after v p k).result = none) ∨
      ∃ k, (after v p k).result = some (tonelliShanks v p) := by
  rcases Nat.mod_two_eq_zero_or_one p with heven | hodd
  · exact (endless_or_result_of_even heven h3 v).imp_left fun ⟨h, hk⟩ => ⟨h, heven, hk⟩
  · obtain ⟨k, -, hk⟩ := (ends hodd h3 v).result
    exact .inr ⟨k, hk⟩

example : tonelliShanks 9 56 = .error .endless := by decide +kernel

end Stage

end RingBallot.Residue
