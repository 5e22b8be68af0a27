import RingBallot.Base32
import RingBallot.Binary64.Basic
import RingBallot.Binary64.Rounding
import RingBallot.Binary64.Shortest
import RingBallot.Bytes
import RingBallot.Bytes.Hex
import RingBallot.Curve.Basic
import RingBallot.Curve.Encoding
import RingBallot.Curve.Group
import RingBallot.Curve.Point
import RingBallot.Curve.Standard
import RingBallot.Decimal
import RingBallot.Digest
import RingBallot.Failure
import RingBallot.Grouping
import RingBallot.Hex
import RingBallot.Json.Basic
import RingBallot.Json.Printer
import RingBallot.Json.Reader
import RingBallot.Json.Token
import RingBallot.KeyPair
import RingBallot.KeyText
import RingBallot.KeyText.Version
import RingBallot.Log
import RingBallot.Message
import RingBallot.Number
import RingBallot.Power
import RingBallot.Proofs.Base32
import RingBallot.Proofs.Base32.Spelling
import RingBallot.Proofs.Curve.Encoding
import RingBallot.Proofs.Curve.GroupLaw
import RingBallot.Proofs.Curve.Laws
import RingBallot.Proofs.Curve.Multiples
import RingBallot.Proofs.Curve.Order
import RingBallot.Proofs.Curve.Standard
import RingBallot.Proofs.Curve.Subgroup
import RingBallot.Proofs.Curve.Weierstrass
import RingBallot.Proofs.KeyMaterial
import RingBallot.Proofs.KeyPair
import RingBallot.Proofs.KeyText
import RingBallot.Proofs.KeyText.Spelling
import RingBallot.Proofs.Outcome
import RingBallot.Proofs.Residue.Certificate
import RingBallot.Proofs.Residue.Endless
import RingBallot.Proofs.Residue.Loops
import RingBallot.Proofs.Residue.Prime
import RingBallot.Proofs.Residue.Sqrt
import RingBallot.Proofs.Signature.Challenge
import RingBallot.Proofs.Signature.Malleability
import RingBallot.Proofs.Signature.Nonces
import RingBallot.Proofs.Signature.Ring.Anonymity
import RingBallot.Proofs.Signature.Ring.Basic
import RingBallot.Proofs.Signature.Ring.Completeness
import RingBallot.Proofs.Signature.Ring.Draws
import RingBallot.Proofs.Signature.Ring.Range
import RingBallot.Proofs.Signature.Ring.Signing
import RingBallot.Proofs.Signature.Ring.Soundness
import RingBallot.Proofs.Signature.Single
import RingBallot.Proofs.Signature.Totality
import RingBallot.Proofs.Signature.Wire
import RingBallot.Proofs.Signature.Wire.Canonical
import RingBallot.Residue.Basic
import RingBallot.Residue.Sqrt
import RingBallot.Settings.Configuration
import RingBallot.Settings.Environment
import RingBallot.Settings.Logging
import RingBallot.Settings.Scheme
import RingBallot.Signature.Challenge
import RingBallot.Signature.Component
import RingBallot.Signature.Ring
import RingBallot.Signature.Single
import RingBallot.Signature.Verdict
import RingBallot.Text.Blank
import RingBallot.Text.DecimalDigit
import RingBallot.Text.Printable
import RingBallot.Text.Quoted
import RingBallot.Text.Ranges
import RingBallot.Text.Word
