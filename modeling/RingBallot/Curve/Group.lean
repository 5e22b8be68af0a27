import RingBallot.Curve.Basic
import RingBallot.Residue.Basic

/-!
The chord and tangent law in coordinates, and multiples by double and add. Operands are checked
once, on entry; the steps in between are not.
-/

namespace RingBallot.Curve

open Residue

variable (E : Curve)

/-- The third point of the line of slope `s` through two points with abscissas `x₁` and `x₂`,
reflected. -/
def third (s x₁ y₁ x₂ : Int) : Point :=
  let x := (E.b * s * s - E.a - x₁ - x₂) % E.p
  .affine x ((s * (x₁ - x) - y₁) % E.p)

/-- The sum of two points with different abscissas. -/
def chord (x₁ y₁ x₂ y₂ : Int) : Outcome Point := do
  let w ← inverse (x₂ - x₁) E.p
  return E.third ((y₂ - y₁) * w % E.p) x₁ y₁ x₂

/-- The double of a point whose ordinate is not zero. -/
def tangent (x y : Int) : Outcome Point := do
  let w ← inverse (2 * E.b * y) E.p
  return E.third ((3 * x * x + 2 * E.a * x + 1) * w % E.p) x y x

/-- The sum of two points that are known to be on the curve. -/
def combine : Point → Point → Outcome Point
  | .infinity, Q => pure Q
  | P, .infinity => pure P
  | .affine x₁ y₁, .affine x₂ y₂ =>
    if x₁ = x₂ then
      if (y₁ + y₂) % E.p = 0 then pure .infinity else E.tangent x₁ y₁
    else E.chord x₁ y₁ x₂ y₂

@[simp] theorem combine_infinity_left (Q : Point) : E.combine .infinity Q = .ok Q := by
  cases Q <;> rfl

@[simp] theorem combine_infinity_right (P : Point) : E.combine P .infinity = .ok P := by
  cases P <;> rfl

def add (P Q : Point) : Outcome Point := do
  E.require P
  E.require Q
  E.combine P Q

/-- The double of a point. Where the tangent is vertical this is a failure, not infinity. -/
def double (P : Point) : Outcome Point := do
  E.require P
  match P with
  | .infinity => return .infinity
  | .affine x y => if y = 0 then throw .verticalTangent else E.tangent x y

def opposite : Point → Point
  | .infinity => .infinity
  | .affine x y => .affine x (-y % E.p)

@[simp] theorem opposite_infinity : E.opposite .infinity = .infinity := rfl

def negate (P : Point) : Outcome Point := do
  E.require P
  return E.opposite P

/-- Adds `k` times `step` to `acc`, one binary digit of `k` at a time from the last one on. -/
def addMultiple (k : Nat) (acc step : Point) : Outcome Point := do
  let acc' ← if k % 2 = 1 then E.combine acc step else pure acc
  if k < 2 then return acc'
  addMultiple (k / 2) acc' (← E.combine step step)
termination_by k

/-- Any multiple of a point; a negative one is the opposite of the positive. -/
def mul (d : Int) (P : Point) : Outcome Point := do
  E.require P
  let Q ← E.addMultiple d.natAbs .infinity P
  return if d < 0 then E.opposite Q else Q

def baseMul (d : Int) : Outcome Point := E.mul d E.generator

/-- Whether a point is finite, on the curve, and killed by the claimed order. -/
def inSubgroup (P : Point) : Outcome Bool :=
  if P.isInfinite ∨ ¬ E.Contains P then pure false
  else do return (← E.mul E.n P).isInfinite

/-- A second generator for each key: the multiple of the generator by the sum of the coordinates.
Infinity goes to itself. -/
def hashToPoint (P : Point) : Outcome Point := do
  E.require P
  match P with
  | .infinity => return .infinity
  | .affine x y => E.baseMul ((x + y) % E.p)

end RingBallot.Curve
