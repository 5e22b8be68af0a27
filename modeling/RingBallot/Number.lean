import RingBallot.Binary64.Shortest

/-!
What settings take for numbers: whole ones, ones of double precision, and truth values, which
count as zero and one. Comparisons are exact.
-/

namespace RingBallot

inductive Number
  | bool (b : Bool)
  | int (n : Int)
  | real (x : Binary64)
  deriving DecidableEq, Inhabited

namespace Number

open scoped CorePower

/-- The whole number that is meant, if the value is of a kind that has only whole ones. -/
def whole? : Number → Option Int
  | bool b => some b.toInt
  | int n => some n
  | real _ => none

/-- How a number compares with a whole one, where it does. -/
def compareInt (x : Number) (n : Int) : Option Ordering :=
  match x with
  | bool b => some (compare b.toInt n)
  | int m => some (compare m n)
  | real x => x.compareInt n

def below (n : Int) (x : Number) : Bool := x.compareInt n = some .lt

def within (low high : Int) (x : Number) : Bool :=
  (x.compareInt low).any (· ≠ .lt) && (x.compareInt high).any (· ≠ .gt)

def isZero : Number → Bool
  | bool b => !b
  | int n => n = 0
  | real x => x.isZero

def scale (k : Nat) : Number → Number
  | bool b => int (b.toInt * 2 ^ k)
  | int n => int (n * 2 ^ k)
  | real x => real (x.scale k)

def text : Number → String
  | bool b => if b then "True" else "False"
  | int n => toString n
  | real x => x.text

theorem below_int (m n : Int) : (int m).below n = decide (m < n) := by
  simp [below, compareInt, Int.compare_eq_lt]

theorem within_int (low high n : Int) :
    (int n).within low high = decide (low ≤ n ∧ n ≤ high) := by
  have h1 : compare n low = .lt ↔ n < low := Int.compare_eq_lt
  have h2 : compare n high = .gt ↔ high < n := Int.compare_eq_gt
  simp only [within, compareInt, Option.any_some, ne_eq, h1, h2, Int.not_lt,
    Bool.decide_and]

theorem within_of_whole {x : Number} {n : Int} (h : x.whole? = some n) (low high : Int) :
    x.within low high = decide (low ≤ n ∧ n ≤ high) := by
  rw [← within_int]
  cases x <;> cases h <;> rfl

end Number

end RingBallot
