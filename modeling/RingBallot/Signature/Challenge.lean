import RingBallot.Curve.Encoding
import RingBallot.Message

/-!
The challenge of a ring signature: the digest of the message and of the compressed commitments,
first all of the left ones and then all of the right ones.
-/

namespace RingBallot.Challenge

variable (E : Curve)

def input (m : Message) (L R : List Point) : Outcome Bytes := do
  let head ← m.toBytes
  let left ← L.mapM E.compress
  let right ← R.mapM E.compress
  return head ++ left.flatten ++ right.flatten

/-- The challenge as a number, not reduced. -/
def value (m : Message) (L R : List Point) : Outcome Nat := do
  return Bytes.toNat (Digest.sha256 (← input E m L R))

end RingBallot.Challenge
