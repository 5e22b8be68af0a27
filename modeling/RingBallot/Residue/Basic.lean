import RingBallot.Failure

/-!
Residues: powers by repeated squaring, inverses by Fermat's little theorem and Euler's criterion.
The moduli are meant to be prime; nothing checks that, and the values are the same formulas for
any modulus.
-/

namespace RingBallot.Residue

open scoped CorePower

/-- The modulus of an operation whose caller gives a whole number. -/
def modulus (m : Int) : Outcome Nat :=
  if m = 0 then throw .zeroModulus
  else if m < 0 then throw .negativeModulus
  else pure m.toNat

def of (v : Int) (m : Nat) : Nat := (v % m).toNat

theorem of_lt {m : Nat} (hm : 0 < m) (v : Int) : of v m < m := by
  have := Int.emod_lt_of_pos v (show (0 : Int) < m by omega)
  have := Int.emod_nonneg v (show (m : Int) ≠ 0 by omega)
  unfold of
  omega

theorem cast_of {m : Nat} (hm : 0 < m) (v : Int) : (of v m : Int) = v % m := by
  have := Int.emod_nonneg v (show (m : Int) ≠ 0 by omega)
  unfold of
  omega

/-- The residue of `b ^ e`, by repeated squaring. -/
def power (b e m : Nat) : Nat :=
  if e = 0 then 1 % m
  else
    let h := power (b * b % m) (e / 2) m
    if e % 2 = 1 then b * h % m else h
termination_by e

theorem power_eq (b e m : Nat) : power b e m = b ^ e % m := by
  induction e using Nat.strongRecOn generalizing b with
  | _ e ih =>
    rw [power]
    by_cases h0 : e = 0
    · simp [h0]
    · have hsq : power (b * b % m) (e / 2) m = b ^ (2 * (e / 2)) % m := by
        rw [ih (e / 2) (by omega), ← Nat.pow_mod, Nat.pow_mul, Nat.pow_two]
      simp only [h0, if_false, hsq]
      split
      · have he : e = 2 * (e / 2) + 1 := by omega
        conv => rhs; rw [he, Nat.pow_succ, Nat.mul_comm]
        rw [Nat.mul_mod_mod]
      · have he : e = 2 * (e / 2) := by omega
        rw [← he]

/-- The inverse of a number modulo a prime, as its power with exponent `m - 2`. -/
def inverse (v : Int) (m : Nat) : Outcome Nat :=
  if of v m = 0 then throw (.noInverse m)
  else pure (power (of v m) (m - 2) m)

theorem inverse_of_ne {v : Int} {m : Nat} (h : of v m ≠ 0) :
    inverse v m = .ok (of v m ^ (m - 2) % m) := by
  simp only [inverse, h, if_false, power_eq]
  rfl

/-- Euler's criterion. Zero counts as a square. -/
def isSquare (v : Int) (m : Nat) : Bool :=
  of v m = 0 || power (of v m) ((m - 1) / 2) m = 1

/-- A number from `1` to `order - 1`, picked by a number drawn at random. -/
def scalar (order draw : Int) : Int := draw.fmod (order - 1) + 1

def scalar? (order draw : Int) : Outcome Int :=
  if order = 1 then throw .zeroModulus else pure (scalar order draw)

end RingBallot.Residue
