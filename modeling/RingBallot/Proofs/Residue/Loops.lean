import RingBallot.Proofs.Residue.Sqrt

/-!
The method of Tonelli and Shanks as loops that know no bound, one turn at a time. Modulo an odd
number, prime or not, the loops end, within a number of turns that can be told beforehand, and with
the outcome of the method. A prime factor of a composite modulus fails Euler's criterion, so the
search ends; a correction needs fewer squarings than the one before it, so the corrections do.
-/

namespace RingBallot.Residue

variable {p : ℕ}

/-! ### The search -/

/-- A proper factor fails Euler's criterion, because none of its powers is one. -/
lemma isSquare_of_dvd {q : ℕ} (h3 : 3 ≤ p) (hq : 1 < q) (hqp : q < p) (hdvd : q ∣ p) :
    isSquare q p = false := by
  rw [← Bool.not_eq_true, isSquare_eq_true_iff (by omega), not_or, Int.cast_natCast]
  constructor
  · rw [ZMod.natCast_eq_zero_iff]
    exact Nat.not_dvd_of_pos_of_lt (by omega) hqp
  · intro h
    have hunit : IsUnit (q : ZMod p) := IsUnit.of_pow_eq_one h (by omega)
    rw [ZMod.isUnit_iff_coprime, Nat.Coprime, Nat.gcd_eq_left hdvd] at hunit
    omega

/-- **The search ends below the modulus**, which need not be prime. -/
lemma nonSquare_lt_of_odd (hodd : p % 2 = 1) (h3 : 3 ≤ p) : nonSquare p 2 < p := by
  by_cases hp : p.Prime
  · have := Fact.mk hp
    exact nonSquare_lt (by omega)
  · have hmin := Nat.minFac_prime (n := p) (by omega)
    have hlt : p.minFac < p := (Nat.not_prime_iff_minFac_lt (by omega)).mp hp
    have hno := isSquare_of_dvd h3 hmin.one_lt hlt (Nat.minFac_dvd p)
    by_contra hge
    rw [isSquare_of_lt_nonSquare hmin.two_le (by omega)] at hno
    cases hno

/-! ### The squarings of an error, taken up on the way -/

/-- How often `t` is squared, fewer than `m` times, until it is `1`. -/
def squarings (p m t : ℕ) : Option ℕ := (orderLog p m t).map Fin.val

lemma squarings_succ (m t : ℕ) : squarings p (m + 1) t =
    if t = 1 then some 0 else (squarings p m (t * t % p)).map Nat.succ := by
  rw [squarings, squarings, orderLog]
  split_ifs
  · rfl
  · cases orderLog p m (t * t % p) <;> rfl

/-- What follows a correction after `i` squarings of the error. -/
def corrected (p m c t r i : ℕ) : Outcome ℕ :=
  let b := power c (2 ^ (m - i - 1)) p
  refine p i (b * b % p) (t * (b * b % p) % p) (r * b % p)

/-- What follows once the error was squared `i` times, with the result `w`. -/
def resumed (p m c t r i w : ℕ) : Outcome ℕ :=
  match squarings p (m - i) w with
  | none => .error .noSquareRoot
  | some j => corrected p m c t r (i + j)

variable {m c t r i w : ℕ}

lemma refine_of_ne (ht : t ≠ 1) : refine p m c t r = resumed p m c t r 0 t := by
  rw [refine, if_neg ht, resumed, Nat.sub_zero, squarings]
  cases orderLog p m t with
  | none => rfl
  | some j => simp only [Option.map_some, Nat.zero_add, corrected]

lemma resumed_one (hi : i < m) : resumed p m c t r i 1 = corrected p m c t r i := by
  rw [resumed, show m - i = m - i - 1 + 1 by omega, squarings_succ, if_pos rfl]
  rfl

lemma resumed_succ (hi : i < m) (hw : w ≠ 1) :
    resumed p m c t r i w = resumed p m c t r (i + 1) (w * w % p) := by
  rw [resumed, resumed, show m - i = m - (i + 1) + 1 by omega, squarings_succ, if_neg hw]
  cases squarings p (m - (i + 1)) (w * w % p) with
  | none => rfl
  | some j =>
    refine congrArg (corrected p m c t r) ?_
    omega

lemma resumed_all (hi : m ≤ i) : resumed p m c t r i w = .error .noSquareRoot := by
  rw [resumed, Nat.sub_eq_zero_of_le hi]
  rfl

/-! ### One turn of a loop -/

/-- Where the method stands between two turns of its loops. -/
inductive Stage
  /-- The factors of two are taken out of `p - 1`, which is `q * 2 ^ s` by now. -/
  | halving (q s : ℕ)
  /-- The next candidate for a number without a root. -/
  | searching (q s z : ℕ)
  /-- A root and its error, before a correction. -/
  | correcting (m c t r : ℕ)
  /-- The error was squared `i` times, with the result `w`. -/
  | squaring (m c t r i w : ℕ)
  | root (r : ℕ)
  | noRoot
  /-- A shift by a negative number of places. -/
  | badShift

namespace Stage

/-- The next stage. Nothing here stops at a bound. -/
def turn (v p : ℕ) : Stage → Stage
  | halving q s => if q % 2 = 0 then halving (q / 2) (s + 1) else searching q s 2
  | searching q s z =>
    if isSquare z p then searching q s (z + 1)
    else correcting s (power z q p) (power v q p) (power v ((q + 1) / 2) p)
  | correcting m c t r => if t = 1 then root r else squaring m c t r 0 t
  | squaring m c t r i w =>
    if w = 1 then
      if m < i + 1 then badShift
      else
        let b := power c (2 ^ (m - i - 1)) p
        correcting i (b * b % p) (t * (b * b % p) % p) (r * b % p)
    else if i + 1 = m then noRoot
    else squaring m c t r (i + 1) (w * w % p)
  | x => x

def result : Stage → Option (Outcome ℕ)
  | root r => some (.ok r)
  | noRoot => some (.error .noSquareRoot)
  | badShift => some (.error .evenModulus)
  | _ => none

def outcome (v p : ℕ) : Stage → Outcome ℕ
  | halving _ _ | searching _ _ _ => tonelliShanks v p
  | correcting m c t r => refine p m c t r
  | squaring m c t r i w => resumed p m c t r i w
  | root r => .ok r
  | noRoot => .error .noSquareRoot
  | badShift => .error .evenModulus

/-- The stages that occur. -/
def Sound (p : ℕ) : Stage → Prop
  | halving q s => q ≠ 0 ∧ oddPart (p - 1) = ((oddPart q).1, (oddPart q).2 + s)
  | searching q s z => oddPart (p - 1) = (q, s) ∧ 2 ≤ z ∧ z ≤ nonSquare p 2
  | correcting m _ _ _ => 0 < m
  | squaring m _ _ _ i w => i < m ∧ (i = 0 → w ≠ 1)
  | root _ | noRoot => True
  | badShift => False

/-- A bound of the turns that are left. -/
def left (p : ℕ) : Stage → ℕ
  | halving q s => (oddPart q).2 + 1 + p + ((oddPart q).2 + s + 1) ^ 2
  | searching _ s z => p - z + (s + 1) ^ 2
  | correcting m _ _ _ => (m + 1) ^ 2
  | squaring m _ _ _ i _ => m - i + m ^ 2
  | root _ | noRoot | badShift => 0

/-- What a turn does to a stage without a result. -/
structure Advances (v p : ℕ) (x y : Stage) : Prop where
  sound : y.Sound p
  outcome : y.outcome v p = x.outcome v p
  left : y.left p < x.left p

variable {v q s z m c t r i w : ℕ} {x : Stage}

lemma advances_halving (h : (halving q s).Sound p) :
    Advances v p (halving q s) (turn v p (halving q s)) := by
  obtain ⟨hq, hpart⟩ := h
  have hz := le_nonSquare p 2
  by_cases heven : q % 2 = 0
  · have hhalf : oddPart q = ((oddPart (q / 2)).1, (oddPart (q / 2)).2 + 1) := by
      rw [oddPart, if_pos ⟨hq, heven⟩]
    rw [turn, if_pos heven]
    refine ⟨⟨by omega, ?_⟩, rfl, ?_⟩
    · rw [hpart, hhalf]
      simp only [Nat.add_assoc, Nat.add_comm 1]
    · simp only [left, hhalf]
      rw [show (oddPart (q / 2)).2 + 1 + s + 1 = (oddPart (q / 2)).2 + (s + 1) + 1 by omega]
      omega
  · have hself : oddPart q = (q, 0) := by
      rw [oddPart, if_neg (by omega)]
    rw [hself, Nat.zero_add] at hpart
    rw [turn, if_neg heven]
    refine ⟨⟨hpart, le_refl 2, hz⟩, rfl, ?_⟩
    simp only [left, hself, Nat.zero_add]
    omega

lemma advances_searching (hodd : p % 2 = 1) (h3 : 3 ≤ p) (h : (searching q s z).Sound p) :
    Advances v p (searching q s z) (turn v p (searching q s z)) := by
  obtain ⟨hpart, hz2, hz⟩ := h
  have hlt := nonSquare_lt_of_odd hodd h3
  by_cases hsq : isSquare z p = true
  · have hne : z ≠ nonSquare p 2 := by
      rintro rfl
      rw [isSquare_nonSquare hlt] at hsq
      cases hsq
    rw [turn, if_pos hsq]
    refine ⟨⟨hpart, by omega, by omega⟩, rfl, ?_⟩
    simp only [left]
    omega
  · have hfound : z = nonSquare p 2 := by
      by_contra hne
      exact hsq (isSquare_of_lt_nonSquare hz2 (by omega))
    have hs : 0 < s := by
      have hmul := oddPart_mul (p - 1)
      have hq := oddPart_odd (n := p - 1) (by omega)
      rw [hpart] at hmul hq
      refine Nat.pos_of_ne_zero fun hs => ?_
      rw [hs, pow_zero, mul_one] at hmul
      simp only at hmul hq
      omega
    rw [turn, if_neg hsq]
    refine ⟨hs, ?_, ?_⟩
    · simp only [outcome, tonelliShanks, hpart, hfound]
      rw [if_neg (by omega), if_neg (by omega)]
    · simp only [left]
      omega

lemma advances_correcting (h : (correcting m c t r).Sound p) :
    Advances v p (correcting m c t r) (turn v p (correcting m c t r)) := by
  have hsq : (m + 1) ^ 2 = m ^ 2 + 2 * m + 1 := by ring
  by_cases ht : t = 1
  · rw [turn, if_pos ht]
    refine ⟨trivial, ?_, ?_⟩
    · rw [outcome, outcome, refine, if_pos ht]
      rfl
    · rw [left, left]
      omega
  · rw [turn, if_neg ht]
    refine ⟨⟨h, fun _ => ht⟩, (refine_of_ne ht).symm, ?_⟩
    rw [left, left]
    omega

lemma advances_squaring (h : (squaring m c t r i w).Sound p) :
    Advances v p (squaring m c t r i w) (turn v p (squaring m c t r i w)) := by
  obtain ⟨hi, hw0⟩ := h
  by_cases hw : w = 1
  · have hi0 : 0 < i := Nat.pos_of_ne_zero fun h0 => hw0 h0 hw
    rw [turn, if_pos hw, if_neg (by omega)]
    refine ⟨hi0, ?_, ?_⟩
    · subst hw
      exact (resumed_one hi).symm
    · have hsq : (i + 1) ^ 2 ≤ m ^ 2 := Nat.pow_le_pow_left hi 2
      simp only [left]
      omega
  · rw [turn, if_neg hw]
    split_ifs with hm
    · refine ⟨trivial, ?_, ?_⟩
      · rw [outcome, outcome, resumed_succ hi hw, resumed_all (by omega)]
      · rw [left, left]
        omega
    · refine ⟨⟨by omega, by omega⟩, (resumed_succ hi hw).symm, ?_⟩
      rw [left, left]
      omega

/-- **Every turn advances**, until there is a result. -/
lemma advances_turn (hodd : p % 2 = 1) (h3 : 3 ≤ p) (h : x.Sound p) (hx : x.result = none) :
    Advances v p x (turn v p x) := by
  cases x with
  | halving q s => exact advances_halving h
  | searching q s z => exact advances_searching hodd h3 h
  | correcting m c t r => exact advances_correcting h
  | squaring m c t r i w => exact advances_squaring h
  | root r => cases hx
  | noRoot => cases hx
  | badShift => cases hx

lemma turn_of_result {o : Outcome ℕ} (h : x.result = some o) :
    turn v p x = x ∧ x.outcome v p = o := by
  cases x <;> cases h <;> exact ⟨rfl, rfl⟩

lemma sound_turn (hodd : p % 2 = 1) (h3 : 3 ≤ p) (h : x.Sound p) : (turn v p x).Sound p := by
  cases hx : x.result with
  | none => exact (advances_turn hodd h3 h hx).sound
  | some o => rwa [(turn_of_result hx).1]

/-! ### The run -/

lemma sound_iterate (hodd : p % 2 = 1) (h3 : 3 ≤ p) (h : x.Sound p) (k : ℕ) :
    ((turn v p)^[k] x).Sound p := by
  induction k with
  | zero => exact h
  | succ k ih =>
    rw [Function.iterate_succ_apply']
    exact sound_turn hodd h3 ih

/-- The turns that are left lead to what the method makes of the stage. -/
lemma exists_result (hodd : p % 2 = 1) (h3 : 3 ≤ p) (h : x.Sound p) :
    ∃ k ≤ x.left p, ((turn v p)^[k] x).result = some (x.outcome v p) := by
  induction hn : x.left p using Nat.strongRecOn generalizing x with
  | _ n ih =>
    cases hx : x.result with
    | none =>
      have hadv := advances_turn (v := v) hodd h3 h hx
      obtain ⟨k, hk, hres⟩ := ih _ (hn ▸ hadv.left) hadv.sound rfl
      have hleft := hadv.left
      refine ⟨k + 1, by omega, ?_⟩
      rw [Function.iterate_succ_apply, hres, hadv.outcome]
    | some o => exact ⟨0, Nat.zero_le n, by rw [(turn_of_result hx).2]; exact hx⟩

/-- What comes after a correction with the bound `m`. -/
def Below (m : ℕ) : Stage → Prop
  | halving _ _ | searching _ _ _ => False
  | correcting m' _ _ _ => m' < m
  | squaring m' _ _ _ _ _ => m' ≤ m
  | root _ | noRoot | badShift => True

lemma below_turn (hx : x.Sound p) (h : x.Below m) : (turn v p x).Below m := by
  cases x with
  | halving q s => cases h
  | searching q s z => cases h
  | correcting m' c t r =>
    have h : m' < m := h
    rw [turn]
    split_ifs
    · trivial
    · exact h.le
  | squaring m' c t r i w =>
    have h : m' ≤ m := h
    have hi : i < m' := hx.1
    rw [turn]
    split_ifs
    · trivial
    · exact lt_of_lt_of_le hi h
    · trivial
    · exact h
  | root r => trivial
  | noRoot => trivial
  | badShift => trivial

lemma below_iterate (hodd : p % 2 = 1) (h3 : 3 ≤ p) (h : (correcting m c t r).Sound p) (k : ℕ) :
    ((turn v p)^[k + 1] (correcting m c t r)).Below m := by
  induction k with
  | zero =>
    rw [Function.iterate_one, turn]
    split_ifs
    · trivial
    · exact le_refl m
  | succ k ih =>
    rw [Function.iterate_succ_apply']
    exact below_turn (sound_iterate hodd h3 h _) ih

def after (v p k : ℕ) : Stage := (turn v p)^[k] (halving (p - 1) 0)

lemma sound_after (hodd : p % 2 = 1) (h3 : 3 ≤ p) (k : ℕ) : (after v p k).Sound p := by
  have hstart : (halving (p - 1) 0).Sound p := ⟨by omega, by rw [Nat.add_zero]⟩
  exact sound_iterate hodd h3 hstart k

/-- The loops come to an end, and none of them goes too far. -/
structure Ends (v p : ℕ) : Prop where
  /-- The result is the outcome of the method. -/
  result : ∃ k ≤ p + ((oddPart (p - 1)).2 + 2) ^ 2,
    (after v p k).result = some (tonelliShanks v p)
  /-- No candidate reaches the modulus. -/
  search : ∀ k q s z, after v p k = searching q s z → z < p
  /-- The bound `m` of a later correction is lower. -/
  correction : ∀ j k m c t r m' c' t' r', j < k → after v p j = correcting m c t r →
    after v p k = correcting m' c' t' r' → m' < m
  /-- Before a squaring, fewer than `m` were made. -/
  squaring : ∀ k m c t r i w, after v p k = squaring m c t r i w → i < m
  /-- No shift is by a negative number of places. -/
  shift : ∀ k, after v p k ≠ badShift

lemma ends (hodd : p % 2 = 1) (h3 : 3 ≤ p) (v : ℕ) : Ends v p where
  result := by
    obtain ⟨k, hk, hres⟩ := exists_result (v := v) hodd h3 (sound_after (v := v) hodd h3 0)
    refine ⟨k, hk.trans ?_, hres⟩
    have hsq (a : ℕ) : (a + 2) ^ 2 = (a + 1) ^ 2 + 2 * a + 3 := by ring
    simp only [after, Function.iterate_zero, id_eq, left, hsq, Nat.add_zero]
    omega
  search k q s z h := by
    have hsound := sound_after (v := v) hodd h3 k
    have hlt := nonSquare_lt_of_odd hodd h3
    rw [h] at hsound
    exact lt_of_le_of_lt hsound.2.2 hlt
  correction j k m c t r m' c' t' r' hjk hj hk := by
    have hsound := sound_after (v := v) hodd h3 j
    obtain ⟨d, rfl⟩ := Nat.exists_eq_add_of_lt hjk
    rw [hj] at hsound
    have hbelow := below_iterate (v := v) hodd h3 hsound d
    rw [← hj, after, ← Function.iterate_add_apply, show d + 1 + j = j + d + 1 by omega, ← after,
      hk] at hbelow
    exact hbelow
  squaring k m c t r i w h := by
    have hsound := sound_after (v := v) hodd h3 k
    rw [h] at hsound
    exact hsound.1
  shift k h := by
    have hsound := sound_after (v := v) hodd h3 k
    rw [h] at hsound
    exact hsound

end Stage

/-! ### The square root -/

lemma tonelliShanks_total (hodd : p % 2 = 1) (h3 : 3 ≤ p) (v : ℕ) :
    tonelliShanks v p = .error .noSquareRoot ∨ ∃ r, tonelliShanks v p = .ok r := by
  have hends := Stage.ends hodd h3 v
  obtain ⟨k, -, hk⟩ := hends.result
  have hshift := hends.shift k
  cases hx : Stage.after v p k with
  | root r =>
    rw [hx] at hk
    exact .inr ⟨r, (Option.some.inj hk).symm⟩
  | noRoot =>
    rw [hx] at hk
    exact .inl (Option.some.inj hk).symm
  | badShift => exact absurd hx hshift
  | halving q s | searching q s z | correcting m c t r | squaring m c t r i w =>
    rw [hx] at hk
    cases hk

lemma sqrt_total (hodd : p % 2 = 1) (h3 : 3 ≤ p) (v : ℤ) :
    sqrt v p = .error .noSquareRoot ∨ ∃ r, sqrt v p = .ok r ∧ r < p := by
  have : NeZero p := ⟨by omega⟩
  unfold sqrt
  simp only
  split_ifs
  · exact .inr ⟨0, rfl, by omega⟩
  · exact .inl rfl
  · exact .inr ⟨_, rfl, power_lt _ _⟩
  · exact .inr ⟨_, rfl, power_lt _ _⟩
  · exact .inr ⟨_, rfl, Nat.mod_lt _ (by omega)⟩
  · refine (tonelliShanks_total hodd h3 _).imp_right fun ⟨r, hr⟩ => ⟨r, hr, ?_⟩
    exact (tonelliShanks_ok (by omega) hr).1

/-- **The square root modulo an odd number**, prime or composite. A number below the modulus is
returned, or the value is refused as no encoding. Where the modulus is not 5 modulo 8, what is
returned squares to the value. The search for a number without a root stops below the modulus, and
the loops of the method of Tonelli and Shanks come to an end. -/
theorem sqrt_of_odd (hodd : p % 2 = 1) (h3 : 3 ≤ p) (v : ℤ) :
    ((sqrt v p).Fails .invalidEncoding ∨
        ∃ r, sqrt v p = .ok r ∧ r < p ∧ (p % 8 ≠ 5 → (r * r : ℤ) ≡ v [ZMOD p])) ∧
      (nonSquare p 2 < p ∧ isSquare (nonSquare p 2) p = false) ∧
      ∀ u : ℕ, Stage.Ends u p := by
  have hsearch := nonSquare_lt_of_odd hodd h3
  refine ⟨?_, ⟨hsearch, isSquare_nonSquare hsearch⟩, Stage.ends hodd h3⟩
  rcases sqrt_total hodd h3 v with h | ⟨r, h, hlt⟩
  · exact .inl ⟨.noSquareRoot, h, rfl⟩
  · refine .inr ⟨r, h, hlt, fun h5 => (ZMod.intCast_eq_intCast_iff _ _ p).mp ?_⟩
    push_cast
    exact (sqrt_ok (by omega) h5 h).2

/-- Modulo `561 = 3 * 11 * 17`, whose first number without a root is a factor, 256 has a root, and
2 is refused though it passes Euler's criterion. Modulo `21`, which is 5 modulo 8, what is returned
for 8 is no root. -/
theorem sqrt_of_odd_composite :
    (561 % 2 = 1 ∧ 3 ≤ 561 ∧ nonSquare 561 2 = 3 ∧ nonSquare 561 2 < 561 ∧
        (sqrt 256 561 = .ok 511 ∧ 511 * 511 ≡ 256 [ZMOD 561]) ∧
        (isSquare 2 561 = true ∧ (sqrt 2 561).Fails .invalidEncoding) ∧ Stage.Ends 256 561) ∧
      (sqrt 8 21 = .ok 4 ∧ 4 < 21 ∧ ¬ 4 * 4 ≡ 8 [ZMOD 21]) := by
  have h256 : sqrt 256 561 = .ok 511 := by decide +kernel
  have h2 : sqrt 2 561 = .error .noSquareRoot := by decide +kernel
  have h8 : sqrt 8 21 = .ok 4 := by decide +kernel
  obtain ⟨hroot, ⟨hsearch, -⟩, hends⟩ := sqrt_of_odd (p := 561) (by decide) (by decide) 256
  obtain ⟨hnone, -⟩ := sqrt_of_odd (p := 561) (by decide) (by decide) 2
  obtain ⟨hfive, -⟩ := sqrt_of_odd (p := 21) (by decide) (by decide) 8
  simp only [h256, h8, Outcome.not_fails_ok, false_or, Except.ok.injEq, exists_eq_left']
    at hroot hfive
  have hrefused : (sqrt 2 561).Fails .invalidEncoding := by
    refine hnone.resolve_right ?_
    rintro ⟨r, hr, -⟩
    rw [h2] at hr
    cases hr
  exact ⟨⟨by decide, by decide, by decide +kernel, hsearch, ⟨h256, hroot.2 (by decide)⟩,
    ⟨by decide +kernel, hrefused⟩, hends 256⟩, h8, hfive.1, by decide⟩

end RingBallot.Residue
