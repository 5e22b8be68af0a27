import RingBallot.Failure

/-!
Curves in Montgomery form, `b y² = x³ + a x² + x` over the residues modulo `p`, with a generator
of claimed order `n`. The parameters of a `Curve` have passed their checks; primality of `p` and
`n` and the order of the generator are assumed where they are needed.
-/

namespace RingBallot

/-- The point with these coordinates, both or none of which are given. -/
def Point.ofCoordinates : Option Int → Option Int → Outcome Point
  | none, none => pure .infinity
  | some x, some y => pure (.affine x y)
  | _, _ => throw .halfPoint

structure Parameters where
  name : String
  a : Int
  b : Int
  p : Nat
  n : Nat
  gx : Int
  gy : Int
  deriving DecidableEq

namespace Parameters

variable (E : Parameters)

/-- The right-hand side of the equation at `x`. -/
def cubic (x : Int) : Int := x * x * x + E.a * x * x + x

def Equation (x y : Int) : Prop := E.b * y * y % E.p = E.cubic x % E.p

instance (x y : Int) : Decidable (E.Equation x y) := inferInstanceAs (Decidable (_ = _))

/-- Coordinates of a point are the least nonnegative ones. -/
def Reduced (x : Int) : Prop := 0 ≤ x ∧ x < E.p

instance (x : Int) : Decidable (E.Reduced x) := inferInstanceAs (Decidable (_ ∧ _))

/-- What is checked of parameters: moduli of a sensible size, no singular point, and a generator
on the curve. -/
def Valid : Prop :=
  3 < E.p ∧ 1 < E.n ∧ E.b % E.p ≠ 0 ∧ (E.a * E.a - 4) % E.p ≠ 0 ∧
    E.Reduced E.gx ∧ E.Reduced E.gy ∧ E.Equation E.gx E.gy

instance : Decidable E.Valid := inferInstanceAs (Decidable (_ ∧ _))

end Parameters

structure Curve extends Parameters where
  valid : toParameters.Valid

namespace Curve

def ofParameters (E : Parameters) : Outcome Curve :=
  if h : E.Valid then pure ⟨E, h⟩ else throw (.badParameters E.name)

/-- The curve with these parameters; a negative modulus or order is refused like zero. -/
def ofIntegers (name : String) (a b p n gx gy : Int) : Outcome Curve :=
  ofParameters ⟨name, a, b, p.toNat, n.toNat, gx, gy⟩

def text (E : Curve) : String := "MontgomeryCurve(" ++ E.name ++ ")"

variable (E : Curve)

def generator : Point := .affine E.gx E.gy

/-- A point of the curve: infinity, or reduced coordinates that satisfy the equation. -/
def Contains : Point → Prop
  | .infinity => True
  | .affine x y => E.Reduced x ∧ E.Reduced y ∧ E.Equation x y

instance : DecidablePred E.Contains
  | .infinity => inferInstanceAs (Decidable True)
  | .affine _ _ => inferInstanceAs (Decidable (_ ∧ _))

def require (P : Point) : Outcome Unit :=
  if E.Contains P then pure () else throw (.offCurve P E.name)

theorem require_of_contains {P : Point} (h : E.Contains P) : E.require P = .ok () := if_pos h

theorem require_of_not_contains {P : Point} (h : ¬ E.Contains P) :
    E.require P = .error (.offCurve P E.name) := if_neg h

theorem contains_infinity : E.Contains .infinity := trivial

theorem contains_generator : E.Contains E.generator := E.valid.2.2.2.2

end Curve

end RingBallot
