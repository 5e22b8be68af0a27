import RingBallot.Hex

/-!
Points as plain coordinate pairs. Nothing here knows a curve: whether a point is valid is asked
of the curve it is used on.
-/

namespace RingBallot

inductive Point
  | infinity
  | affine (x y : Int)
  deriving DecidableEq, Inhabited

namespace Point

def isInfinite : Point → Bool
  | infinity => true
  | affine _ _ => false

@[simp] theorem isInfinite_infinity : infinity.isInfinite = true := rfl
@[simp] theorem isInfinite_affine (x y : Int) : (affine x y).isInfinite = false := rfl

/-- Coordinates are shown at the width of 256 bits; longer ones are not cut. -/
def text : Point → String
  | infinity => "Point(∞)"
  | affine x y => "Point(x=0x" ++ Hex.padded 64 x ++ ", y=0x" ++ Hex.padded 64 y ++ ")"

end Point

end RingBallot
