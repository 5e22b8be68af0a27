import RingBallot.Residue.Basic

/-!
One square root modulo an odd prime: a single power where the modulus is 3 modulo 4, a corrected
power where it is 5 modulo 8, and the method of Tonelli and Shanks otherwise. Modulo an odd number
its search for a number that is no square stops below the modulus, and each correction lowers the
order of the error, so the method ends. Modulo an even number neither need be so: what never comes
to an end is told beforehand.
-/

namespace RingBallot.Residue

open scoped CorePower

/-- A number as `q * 2 ^ s` with `q` odd, zero as `0 * 2 ^ 0`. -/
def oddPart (n : Nat) : Nat × Nat :=
  if n ≠ 0 ∧ n % 2 = 0 then
    let qs := oddPart (n / 2)
    (qs.1, qs.2 + 1)
  else (n, 0)
termination_by n

theorem oddPart_mul (n : Nat) : (oddPart n).1 * 2 ^ (oddPart n).2 = n := by
  induction n using Nat.strongRecOn with
  | _ n ih =>
    rw [oddPart]
    split
    · rename_i h
      have := ih (n / 2) (by omega)
      simp only [Nat.pow_succ, ← Nat.mul_assoc, this]
      omega
    · simp

theorem oddPart_odd {n : Nat} (hn : n ≠ 0) : (oddPart n).1 % 2 = 1 := by
  induction n using Nat.strongRecOn with
  | _ n ih =>
    rw [oddPart]
    split
    · exact ih (n / 2) (by omega) (by omega)
    · simp only
      omega

/-- The least number from `z` on that fails Euler's criterion, the modulus itself at the latest. -/
def nonSquare (p z : Nat) : Nat :=
  if z < p ∧ isSquare z p then nonSquare p (z + 1) else z
termination_by p - z

theorem le_nonSquare (p z : Nat) : z ≤ nonSquare p z := by
  induction h : p - z using Nat.strongRecOn generalizing z with
  | _ k ih =>
    rw [nonSquare]
    split
    · have := ih (p - (z + 1)) (by omega) (z + 1) rfl
      omega
    · exact Nat.le_refl z

theorem isSquare_nonSquare {p z : Nat} (h : nonSquare p z < p) :
    isSquare (nonSquare p z) p = false := by
  induction hk : p - z using Nat.strongRecOn generalizing z with
  | _ k ih =>
    rw [nonSquare] at h ⊢
    split
    · rename_i hz
      rw [if_pos hz] at h
      exact ih (p - (z + 1)) (by omega) h rfl
    · rename_i hz
      rw [if_neg hz] at h
      simpa [h] using hz

theorem isSquare_of_lt_nonSquare {p z k : Nat} (hz : z ≤ k) (hk : k < nonSquare p z) :
    isSquare k p = true := by
  induction h : p - z using Nat.strongRecOn generalizing z with
  | _ n ih =>
    rw [nonSquare] at hk
    split at hk
    · rename_i hsq
      by_cases hzk : z = k
      · exact hzk ▸ hsq.2
      · exact ih (p - (z + 1)) (by omega) (by omega) hk rfl
    · omega

/-- The least `i` below `m` for which `t ^ 2 ^ i` is `1`. -/
def orderLog (p : Nat) : (m : Nat) → Nat → Option (Fin m)
  | 0, _ => none
  | m + 1, t => if t = 1 then some 0 else (orderLog p m (t * t % p)).map Fin.succ

/-- Corrects the root `r` while its error `t` is not `1`. The order of `c` is `2 ^ m`. -/
def refine (p m c t r : Nat) : Outcome Nat :=
  if t = 1 then pure r
  else
    match orderLog p m t with
    | none => throw .noSquareRoot
    | some i =>
      let b := power c (2 ^ (m - i - 1)) p
      let c' := b * b % p
      refine p i c' (t * c' % p) (r * b % p)
termination_by m
decreasing_by exact i.isLt

/-- The method of Tonelli and Shanks for a nonzero residue `v`. Candidates repeat modulo `p`, so a
search that has come to `p` goes on for ever. Where `p - 1` has no factor of two, the squarings of
an error have no bound, and they too repeat after `p` of them at the latest. -/
def tonelliShanks (v p : Nat) : Outcome Nat :=
  let (q, s) := oddPart (p - 1)
  let z := nonSquare p 2
  let t := power v q p
  if p ≤ z then throw .endless
  else if s = 0 ∧ t ≠ 1 then
    throw (if (orderLog p p t).isSome then .evenModulus else .endless)
  else refine p s (power z q p) t (power v ((q + 1) / 2) p)

/-- One root of `v` modulo `p`. Which of the two it is, callers do not rely on. -/
def sqrt (v : Int) (p : Nat) : Outcome Nat :=
  let r := of v p
  if r = 0 then pure 0
  else if !isSquare r p then throw .noSquareRoot
  else if p % 4 = 3 then pure (power r ((p + 1) / 4) p)
  else if p % 8 = 5 then
    let w := power r ((p + 3) / 8) p
    pure (if w * w % p = r then w else w * power 2 ((p - 1) / 4) p % p)
  else tonelliShanks r p

end RingBallot.Residue
