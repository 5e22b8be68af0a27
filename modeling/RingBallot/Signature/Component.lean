/-!
The scalars of a signature, named as reports name them.
-/

namespace RingBallot

inductive Component
  /-- First scalar of a single signature. -/
  | r
  /-- Second scalar of a single signature. -/
  | s
  /-- Challenge share of a ring member. -/
  | challenge (member : Nat)
  /-- Response of a ring member. -/
  | response (member : Nat)
  deriving DecidableEq

namespace Component

def low : Component → Nat
  | r | s => 1
  | challenge _ | response _ => 0

def name : Component → String
  | r => "r"
  | s => "s"
  | challenge i => "c[" ++ toString i ++ "]"
  | response i => "r[" ++ toString i ++ "]"

def outside (c : Component) : String :=
  c.name ++ " outside [" ++ toString c.low ++ ", N-1]"

end Component

end RingBallot
