import RingBallot.Curve.Encoding
import RingBallot.Proofs.Curve.Order
import RingBallot.Proofs.Residue.Sqrt

/-!
The bytes of a point. A point is read from no bytes but those that it is written as, whatever the
modulus. Modulo a prime every point that can be written is read back, so the points on the curve
and the byte strings that are accepted stand in bijection; all others are invalid encodings.
-/

namespace RingBallot.Curve

open RingBallot.Residue

variable {E : Curve}

/-! ### Written forms -/

lemma compress_infinity : E.compress .infinity = .ok (Bytes.zeros 33) := by
  rw [compress, if_pos E.contains_infinity]
  rfl

/-- The written form of a finite point: a head by the parity of the ordinate, then the abscissa. -/
def finiteCode (x y : ℕ) : Bytes := UInt8.ofNat (2 + y % 2) :: Bytes.ofNat width x

lemma compress_affine {x y : ℕ} (h : E.Contains (.affine x y)) :
    E.compress (.affine x y) =
      if x < 256 ^ width then .ok (finiteCode x y) else .error .numberTooBig := by
  have hy : ((y : ℤ) % 2).toNat = y % 2 := by omega
  rw [compress, if_pos h]
  split_ifs with hx
  · simp only [Bytes.ofInt_of_lt hx, Outcome.ok_bind, Outcome.pure_eq, hy, finiteCode]
  · simp only [Bytes.ofInt_of_le (not_lt.mp hx), Outcome.error_bind]

lemma head_toNat (x y : ℕ) : ((finiteCode x y).headD 0).toNat = 2 + y % 2 := by
  have : (UInt8.ofNat (2 + y % 2)).toNat = 2 + y % 2 := by
    rw [UInt8.toNat_ofNat']
    omega
  simpa [finiteCode] using this

@[simp] lemma length_finiteCode (x y : ℕ) : (finiteCode x y).length = 33 := by
  simp [finiteCode, width]

lemma finiteCode_ne_zeros (x y : ℕ) : finiteCode x y ≠ Bytes.zeros 33 := by
  intro h
  have hhead := head_toNat x y
  rw [h] at hhead
  have : ((Bytes.zeros 33).headD 0).toNat = 0 := rfl
  omega

lemma contains_of_compress {P : Point} {bs : Bytes} (h : E.compress P = .ok bs) :
    E.Contains P := by
  unfold compress at h
  split_ifs at h with hP
  exact hP

lemma length_of_compress {P : Point} {bs : Bytes} (h : E.compress P = .ok bs) :
    bs.length = 33 := by
  have hP := contains_of_compress h
  rcases P with _ | ⟨x, y⟩
  · rw [compress_infinity] at h
    cases h
    rfl
  · obtain ⟨⟨hx, -⟩, ⟨hy, -⟩, -⟩ := id hP
    lift x to ℕ using hx
    lift y to ℕ using hy
    rw [compress_affine hP] at h
    split_ifs at h
    cases h
    exact length_finiteCode x y

lemma compress_fits {P : Point} (hP : E.Contains P) :
    (∃ bs, E.compress P = .ok bs) ↔ ∀ x y, P = .affine x y → x < 2 ^ 256 := by
  rcases P with _ | ⟨x, y⟩
  · exact ⟨fun _ => nofun, fun _ => ⟨_, compress_infinity⟩⟩
  · obtain ⟨⟨hx, -⟩, ⟨hy, -⟩, -⟩ := id hP
    lift x to ℕ using hx
    lift y to ℕ using hy
    rw [compress_affine hP]
    split_ifs with h
    · refine ⟨fun _ u v huv => ?_, fun _ => ⟨_, rfl⟩⟩
      cases huv
      exact_mod_cast h
    · refine ⟨nofun, fun hlt => absurd ?_ h⟩
      exact_mod_cast hlt _ _ rfl

lemma compress_total (h256 : E.p ≤ 2 ^ 256) {P : Point} (hP : E.Contains P) :
    ∃ bs, E.compress P = .ok bs := by
  refine (compress_fits hP).mpr ?_
  rintro x y rfl
  have h256' : (E.p : ℤ) ≤ 2 ^ 256 := by exact_mod_cast h256
  exact lt_of_lt_of_le hP.1.2 h256'

/-! ### Reading -/

lemma ofParity_eq_ok {parity r y : ℕ} (h : E.ofParity parity r = .ok y) : y % 2 = parity := by
  simp only [ofParity] at h
  split_ifs at h with h₁ h₂
  · cases h
    exact h₁
  · cases h
    exact h₂

lemma ofParity_error {parity r : ℕ} {f : Failure} (h : E.ofParity parity r = .error f) :
    f = .signOfZero := by
  simp only [ofParity] at h
  split_ifs at h
  · cases h
  · cases h
  · cases h
    rfl

lemma ofAbscissa_eq (head : UInt8) (x : ℕ) :
    E.ofAbscissa head x =
      if head.toNat / 2 ≠ 1 then .error (.pointHead head)
      else if E.p ≤ x then .error .abscissaTooBig
      else E.ordinate x >>= fun r => E.ofParity (head.toNat % 2) r >>= fun y =>
        if E.Contains (.affine x y) then .ok (.affine x y) else .error .decodedOffCurve := by
  unfold ofAbscissa
  split_ifs <;> rfl

lemma ofAbscissa_eq_ok {head : UInt8} {x : ℕ} {P : Point} (h : E.ofAbscissa head x = .ok P) :
    head.toNat / 2 = 1 ∧ ∃ y : ℕ, y % 2 = head.toNat % 2 ∧ P = .affine x y ∧ E.Contains P := by
  rw [ofAbscissa_eq] at h
  split_ifs at h with hhead
  obtain ⟨r, -, h⟩ := Outcome.bind_eq_ok.mp h
  obtain ⟨y, hy, h⟩ := Outcome.bind_eq_ok.mp h
  split_ifs at h with hP
  cases h
  exact ⟨not_not.mp hhead, y, ofParity_eq_ok hy, rfl, hP⟩

/-- **What is read is written as it was read**, for any modulus. -/
lemma compress_of_decompress {bs : Bytes} {P : Point} (h : E.decompress bs = .ok P) :
    E.Contains P ∧ E.compress P = .ok bs := by
  unfold decompress at h
  split_ifs at h with hlen hzero
  · cases h
    exact ⟨E.contains_infinity, by rw [compress_infinity, hzero]⟩
  · obtain ⟨hhead, y, hy, rfl, hP⟩ := ofAbscissa_eq_ok h
    refine ⟨hP, ?_⟩
    obtain _ | ⟨head, rest⟩ := bs
    · simp at hlen
    simp only [List.headD_cons, List.tail_cons, List.length_cons, not_not] at hhead hy hP hlen ⊢
    have hrest : rest.length = width := by unfold width; omega
    have hx : Bytes.toNat rest < 256 ^ width := by
      have := Bytes.toNat_lt rest
      rwa [hrest] at this
    rw [compress_affine hP, if_pos hx, finiteCode, ← hrest, Bytes.ofNat_toNat]
    have : UInt8.ofNat (2 + y % 2) = head := by
      rw [hy, show 2 + head.toNat % 2 = head.toNat by omega, UInt8.ofNat_toNat]
    rw [this]

lemma length_of_decompress {bs : Bytes} {P : Point} (h : E.decompress bs = .ok P) :
    bs.length = 33 := by
  unfold decompress at h
  split_ifs at h with hlen
  · exact not_not.mp hlen
  · exact not_not.mp hlen

/-! ### Modulo a prime -/

section Prime

variable [Fact E.p.Prime]

lemma ordinate_cases (x : ℕ) :
    (∃ r, E.ordinate x = .ok r ∧ r < E.p ∧
        ∀ y : ℕ, E.Equation x y → (r * r : ZMod E.p) = y * y) ∨
      E.ordinate x = .error .noSquareRoot ∧ ∀ y : ℕ, ¬ E.Equation x y := by
  have h2 : E.p ≠ 2 := by
    have := E.valid.1
    omega
  obtain ⟨w, hw, hwz⟩ := inverse_spec (b_ne_zero (E := E))
  have hord : E.ordinate x = sqrt (E.cubic x % E.p * w) E.p := by
    rw [ordinate, hw, Outcome.ok_bind]
  have hroot {y : ℕ} (h : E.Equation x y) :
      ((E.cubic x % E.p * w : ℤ) : ZMod E.p) = y * y := by
    have heq := equation_iff_zmod.mp h
    rw [Int.cast_mul, ZMod.intCast_mod]
    simp only [Parameters.cubic]
    push_cast at heq ⊢
    linear_combination (y * y : ZMod E.p) * hwz - w * heq
  rw [hord]
  by_cases hsq : IsSquare ((E.cubic x % E.p * w : ℤ) : ZMod E.p)
  · obtain ⟨r, hr, hlt, hrr⟩ := sqrt_of_isSquare h2 hsq
    exact .inl ⟨r, hr, hlt, fun y hy => hrr.trans (hroot hy)⟩
  · exact .inr ⟨sqrt_of_not_isSquare h2 hsq, fun y hy => hsq ⟨y, hroot hy⟩⟩

/-- Of a root and its opposite, one has the parity of the ordinate; zero has no opposite. -/
lemma ofParity_of_sq {r y : ℕ} (hr : r < E.p) (hy : y < E.p) (h : (r * r : ZMod E.p) = y * y) :
    E.ofParity (y % 2) r = .ok y := by
  have hodd := p_odd (E := E)
  simp only [ofParity]
  rcases mul_self_eq_mul_self_iff.mp h with heq | hopp
  · have hry : r = y := CharP.natCast_injOn_Iio (ZMod E.p) E.p hr hy heq
    simp [hry]
  · rcases add_eq_of_zmod hr hy (by rw [hopp, neg_add_cancel]) with h0 | hp
    · obtain ⟨rfl, rfl⟩ : r = 0 ∧ y = 0 := by omega
      rfl
    · have hmod : (E.p - r) % E.p = y := by
        rw [show E.p - r = y by omega, Nat.mod_eq_of_lt hy]
      rw [if_neg (by omega), hmod, if_pos rfl]
      rfl

/-- **What is written is read back.** -/
lemma decompress_of_compress {P : Point} {bs : Bytes} (hP : E.Contains P)
    (h : E.compress P = .ok bs) : E.decompress bs = .ok P := by
  rcases P with _ | ⟨x, y⟩
  · rw [compress_infinity] at h
    cases h
    rfl
  obtain ⟨⟨hx, hxp⟩, ⟨hy, hyp⟩, heq⟩ := id hP
  lift x to ℕ using hx
  lift y to ℕ using hy
  rw [compress_affine hP] at h
  split_ifs at h with hfits
  cases h
  have hlen := length_finiteCode x y
  have hhead := head_toNat x y
  have htail : Bytes.toNat (finiteCode x y).tail = x := by
    rw [finiteCode, List.tail_cons, Bytes.toNat_ofNat]
    exact Nat.mod_eq_of_lt hfits
  obtain ⟨r, hr, hlt, hrr⟩ | ⟨-, hno⟩ := ordinate_cases (E := E) x
  · have hpar := ofParity_of_sq hlt (by omega) (hrr y heq)
    rw [decompress, if_neg (not_not.mpr hlen), if_neg (finiteCode_ne_zeros x y), htail,
      ofAbscissa_eq, hhead, if_neg (by omega), if_neg (by omega), hr, Outcome.ok_bind,
      show (2 + y % 2) % 2 = y % 2 by omega, hpar, Outcome.ok_bind, if_pos hP]
  · exact absurd heq (hno y)

lemma ordinate_error {x : ℕ} {f : Failure} (h : E.ordinate x = .error f) :
    f = .noSquareRoot := by
  obtain ⟨r, hr, -⟩ | ⟨hno, -⟩ := ordinate_cases (E := E) x
  · rw [hr] at h
    cases h
  · rw [hno] at h
    cases h
    rfl

lemma ofAbscissa_error {head : UInt8} {x : ℕ} {f : Failure}
    (h : E.ofAbscissa head x = .error f) : f.kind = .invalidEncoding := by
  rw [ofAbscissa_eq] at h
  split_ifs at h
  · cases h
    rfl
  · cases h
    rfl
  rcases Outcome.bind_eq_error.mp h with h | ⟨r, -, h⟩
  · rw [ordinate_error h]
    rfl
  rcases Outcome.bind_eq_error.mp h with h | ⟨y, -, h⟩
  · rw [ofParity_error h]
    rfl
  · split_ifs at h
    cases h
    rfl

lemma decompress_error {bs : Bytes} {f : Failure} (h : E.decompress bs = .error f) :
    f.kind = .invalidEncoding := by
  unfold decompress at h
  split_ifs at h
  · cases h
    rfl
  · cases h
  · exact ofAbscissa_error h

end Prime

/-- **The point codec is a bijection onto canonical encodings.** Whatever the modulus, what is read
is a point of the curve whose written form was read. Modulo a prime the points that fit are written
and read back, and all that is not a written form of a point is an invalid encoding. -/
theorem decompress_canonical (E : Curve) :
    (∀ bs P, E.decompress bs = .ok P → E.Contains P ∧ E.compress P = .ok bs) ∧
      (E.p.Prime →
        (∀ P, E.Contains P →
          ((∃ bs, E.compress P = .ok bs) ↔ ∀ x y, P = .affine x y → x < 2 ^ 256) ∧
          ∀ bs, E.compress P = .ok bs → E.decompress bs = .ok P) ∧
        ∀ bs, ((E.decompress bs).Fails .invalidEncoding ↔
            ∀ P, E.Contains P → E.compress P ≠ .ok bs) ∧
          ∀ f, E.decompress bs = .error f → f.kind = .invalidEncoding) := by
  refine ⟨fun bs P h => compress_of_decompress h, fun hp => ?_⟩
  have := Fact.mk hp
  refine ⟨fun P hP => ⟨compress_fits hP, fun bs h => decompress_of_compress hP h⟩,
    fun bs => ⟨⟨fun h P hP hbs => ?_, fun h => ?_⟩, fun f h => decompress_error h⟩⟩
  · rw [decompress_of_compress hP hbs] at h
    exact Outcome.not_fails_ok _ _ h
  · rcases hbs : E.decompress bs with f | P
    · exact ⟨f, rfl, decompress_error hbs⟩
    · obtain ⟨hP, hcomp⟩ := compress_of_decompress hbs
      exact absurd hcomp (h P hP)

/-- Parameters whose modulus is the square of 7, and a point on them. -/
def curve49 : Curve where
  name := "Curve49"
  a := 3
  b := 1
  p := 49
  n := 7
  gx := 4
  gy := 30
  valid := by decide

/-- A point read modulo a square; modulo 19 a point of order two, which has one written form and not
two. -/
theorem decompress_canonical_curve19 :
    curve49.decompress (2 :: Bytes.ofNat 32 4) = .ok (.affine 4 30) ∧
      curve49.compress (.affine 4 30) = .ok (2 :: Bytes.ofNat 32 4) ∧
      curve19.p.Prime ∧ curve19.Contains (.affine 0 0) ∧
      curve19.compress (.affine 0 0) = .ok (2 :: Bytes.zeros 32) ∧
      curve19.decompress (2 :: Bytes.zeros 32) = .ok (.affine 0 0) ∧
      (curve19.decompress (3 :: Bytes.zeros 32)).Fails .invalidEncoding ∧
      ∀ P, curve19.Contains P → curve19.compress P ≠ .ok (3 :: Bytes.zeros 32) := by
  have hp := curve19_primeOrder.p_prime
  have hread : curve49.decompress (2 :: Bytes.ofNat 32 4) = .ok (.affine 4 30) := by
    decide +kernel
  have hP : curve19.Contains (.affine 0 0) := by decide
  have hwritten : curve19.compress (.affine 0 0) = .ok (2 :: Bytes.zeros 32) := by decide +kernel
  have hfail : (curve19.decompress (3 :: Bytes.zeros 32)).Fails .invalidEncoding :=
    ⟨.signOfZero, by decide +kernel, rfl⟩
  obtain ⟨hprime, hinvalid⟩ := (decompress_canonical curve19).2 hp
  exact ⟨hread, ((decompress_canonical curve49).1 _ _ hread).2, hp, hP, hwritten,
    (hprime _ hP).2 _ hwritten, hfail, (hinvalid _).1.mp hfail⟩

end RingBallot.Curve
