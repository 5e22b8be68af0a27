import RingBallot.Bytes.Hex
import RingBallot.Curve.Group
import RingBallot.Residue.Sqrt

/-!
Points as 33 bytes: a head that is 2 or 3 by the parity of the ordinate, and the abscissa.
Infinity is 33 zeros, which no other point can have.
-/

namespace RingBallot.Curve

open Residue

variable (E : Curve)

/-- The number of bytes of an abscissa or a scalar. -/
def width : Nat := 32

/-- One ordinate for an abscissa, whichever of the two the root gives. -/
def ordinate (x : Int) : Outcome Nat := do
  let w ← inverse E.b E.p
  sqrt (E.cubic x % E.p * w) E.p

def compress (P : Point) : Outcome Bytes :=
  if E.Contains P then
    match P with
    | .infinity => pure (Bytes.zeros 33)
    | .affine x y => do
      let xs ← Bytes.ofInt width x
      return UInt8.ofNat (2 + (y % 2).toNat) :: xs
  else throw (.offCurveEncoding P)

/-- The ordinate of the given parity, out of a root and its opposite. -/
def ofParity (parity y : Nat) : Outcome Nat :=
  if y % 2 = parity then pure y
  else
    let y' := (E.p - y) % E.p
    if y' % 2 = parity then pure y' else throw .signOfZero

def ofAbscissa (head : UInt8) (x : Nat) : Outcome Point := do
  if head.toNat / 2 ≠ 1 then throw (.pointHead head)
  if E.p ≤ x then throw .abscissaTooBig
  let y ← E.ofParity (head.toNat % 2) (← E.ordinate x)
  if E.Contains (.affine x y) then return .affine x y else throw .decodedOffCurve

def decompress (bs : Bytes) : Outcome Point :=
  if bs.length ≠ 33 then throw (.pointLength bs.length)
  else if bs = Bytes.zeros 33 then pure .infinity
  else E.ofAbscissa (bs.headD 0) (Bytes.toNat bs.tail)

/-- The point behind the hexadecimal text of its bytes. -/
def decompressText (text : String) : Outcome Point := do
  E.decompress (← Bytes.ofHex text)

end RingBallot.Curve
