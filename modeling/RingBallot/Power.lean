/-!
Powers of natural numbers, where programs compute them, are the core library's whatever else is
imported.
-/

namespace RingBallot.CorePower

attribute [scoped instance (high)] instPowNat

end RingBallot.CorePower
