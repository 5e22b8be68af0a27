/-!
Classes of characters as closed ranges of code points.
-/

namespace RingBallot.Text

def inRanges (rs : List (Nat × Nat)) (c : Char) : Bool :=
  rs.any fun r => r.1 ≤ c.toNat && c.toNat ≤ r.2

end RingBallot.Text
