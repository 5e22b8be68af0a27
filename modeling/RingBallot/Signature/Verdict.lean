import RingBallot.Log

/-!
The answer of a verification that came to its end: the signature holds, or the reason why not.
-/

namespace RingBallot

inductive Verdict (ρ : Type)
  | accepted
  | rejected (why : ρ)
  deriving DecidableEq

namespace Verdict

def holds {ρ : Type} : Verdict ρ → Bool
  | accepted => true
  | rejected _ => false

/-- The records of a verdict, where `report` words the reasons that are reported. -/
def log {ρ : Type} (report : ρ → Option String) : Verdict ρ → List LogRecord
  | accepted => []
  | rejected why => ((report why).map LogRecord.debug).toList

end Verdict

end RingBallot
