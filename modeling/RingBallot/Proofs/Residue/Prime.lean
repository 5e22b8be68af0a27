import Mathlib.FieldTheory.Finite.Basic
import RingBallot.Proofs.Outcome
import RingBallot.Residue.Basic

/-!
Residues modulo a prime are the elements of a field. Here the remainders that the operations
compute are read as such elements, and the inverse is shown to be the inverse of the field.
-/

namespace RingBallot.Residue

variable {p : ℕ}

lemma zmod_of [NeZero p] (v : ℤ) : ((of v p : ℕ) : ZMod p) = v := by
  have h := cast_of (Nat.pos_of_neZero p) v
  rw [← Int.cast_natCast, h, ZMod.intCast_mod]

lemma of_eq_zero_iff [NeZero p] {v : ℤ} : of v p = 0 ↔ (v : ZMod p) = 0 := by
  have hlt := of_lt (Nat.pos_of_neZero p) v
  rw [← zmod_of, ZMod.natCast_eq_zero_iff]
  exact ⟨fun h => h ▸ dvd_zero p, fun h => Nat.eq_zero_of_dvd_of_lt h hlt⟩

lemma emod_eq_zero_iff {v : ℤ} : v % p = 0 ↔ (v : ZMod p) = 0 := by
  rw [ZMod.intCast_zmod_eq_zero_iff_dvd, Int.dvd_iff_emod_eq_zero]

lemma emod_range [NeZero p] (v : ℤ) : 0 ≤ v % p ∧ v % p < p := by
  have hp := Nat.pos_of_neZero p
  exact ⟨Int.emod_nonneg v (by omega), Int.emod_lt_of_pos v (by omega)⟩

lemma emod_eq_iff {x v : ℤ} (h0 : 0 ≤ x) (h1 : x < p) : v % p = x ↔ (v : ZMod p) = x := by
  rw [ZMod.intCast_eq_intCast_iff', Int.emod_eq_of_lt h0 h1]

lemma eq_of_zmod_eq {x y : ℤ} (hx : 0 ≤ x ∧ x < p) (hy : 0 ≤ y ∧ y < p)
    (h : (x : ZMod p) = y) : x = y := by
  have := (emod_eq_iff hy.1 hy.2).mpr h
  rwa [Int.emod_eq_of_lt hx.1 hx.2] at this

lemma zmod_ne_zero {x : ℤ} (h0 : 0 < x) (h1 : x < p) : (x : ZMod p) ≠ 0 := by
  intro h
  have := emod_eq_zero_iff.mpr h
  rw [Int.emod_eq_of_lt h0.le h1] at this
  omega

lemma add_eq_of_zmod {x y : ℕ} (hx : x < p) (hy : y < p) (h : (x + y : ZMod p) = 0) :
    x + y = 0 ∨ x + y = p := by
  rw [← Nat.cast_add, ZMod.natCast_eq_zero_iff] at h
  obtain ⟨k, hk⟩ := h
  have hk2 : k < 2 := by
    by_contra hk2
    have : p * 2 ≤ p * k := Nat.mul_le_mul_left _ (by omega)
    omega
  interval_cases k
  · exact .inl hk
  · exact .inr (by omega)

/-- **Fermat**: the power with exponent `p - 2` inverts. -/
lemma inverse_spec [Fact p.Prime] {v : ℤ} (hv : (v : ZMod p) ≠ 0) :
    ∃ w, inverse v p = .ok w ∧ (v * w : ZMod p) = 1 := by
  have h2 : 2 ≤ p := (Fact.out : p.Prime).two_le
  refine ⟨_, inverse_of_ne (mt of_eq_zero_iff.mp hv), ?_⟩
  rw [ZMod.natCast_mod, Nat.cast_pow, zmod_of, ← pow_succ', show p - 2 + 1 = p - 1 by omega]
  exact ZMod.pow_card_sub_one_eq_one hv

end RingBallot.Residue
