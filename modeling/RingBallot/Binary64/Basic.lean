import RingBallot.Power

/-!
Numbers of double precision. All finite ones are whole multiples of `2 ^ -1074`, so a number of
such units stands for each of them; how far apart they lie depends on their size.
-/

namespace RingBallot

inductive Binary64
  /-- A sign and a magnitude in units of `2 ^ -1074`. Zero has both signs. -/
  | finite (negative : Bool) (units : Nat)
  | infinite (negative : Bool)
  | nan
  deriving DecidableEq, Inhabited

namespace Binary64

open scoped CorePower

/-- The units in one. -/
def one : Nat := 2 ^ (1074 : Nat)

/-- The least magnitude that is too big, in units. -/
def limit : Nat := 2 ^ (2098 : Nat)

/-- The distance from a magnitude to the next larger one: a magnitude has 53 binary digits. -/
def gap (u : Nat) : Nat := 2 ^ (u.log2 - 52)

def ofUnits (negative : Bool) (u : Nat) : Binary64 :=
  if u < limit then finite negative u else infinite negative

def isZero : Binary64 → Bool
  | finite _ 0 => true
  | _ => false

/-- How a number compares with a whole one. What is not a number compares with none. -/
def compareInt (x : Binary64) (n : Int) : Option Ordering :=
  match x with
  | finite negative u => some (compare (if negative then -(u : Int) else u) (n * one))
  | infinite negative => some (if negative then .lt else .gt)
  | nan => none

def scale (k : Nat) : Binary64 → Binary64
  | finite negative u => ofUnits negative (u * 2 ^ k)
  | x => x

end Binary64

end RingBallot
