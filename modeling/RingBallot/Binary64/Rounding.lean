import RingBallot.Binary64.Basic

/-!
The number of double precision that is nearest to a decimal one. Of two that are equally near the
even one is taken.
-/

namespace RingBallot.Binary64

open scoped CorePower

/-- The multiple of `g` that is nearest to `num / den`, the even multiple at a tie. -/
def nearestMultiple (g num den : Nat) : Nat :=
  let q := num / (den * g)
  let r := num % (den * g)
  if 2 * r < den * g ∨ (2 * r = den * g ∧ q % 2 = 0) then q * g else (q + 1) * g

def ofRatio (negative : Bool) (num den : Nat) : Binary64 :=
  let num := num * one
  ofUnits negative (nearestMultiple (gap (num / den)) num den)

/-- The number nearest to `digits * 10 ^ exponent`. With three binary digits for each power of ten
it is told beforehand that a number is out of bounds, so no great power is ever computed. -/
def ofDecimal (negative : Bool) (digits : Nat) (exponent : Int) : Binary64 :=
  if digits = 0 then finite negative 0
  else if 0 ≤ exponent then
    if 1024 < digits.log2 + 3 * exponent.toNat then infinite negative
    else ofRatio negative (digits * 10 ^ exponent.toNat) 1
  else if digits.log2 + 1076 ≤ 3 * (-exponent).toNat then finite negative 0
  else ofRatio negative digits (10 ^ (-exponent).toNat)

end RingBallot.Binary64
