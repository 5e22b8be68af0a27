import RingBallot.Curve.Basic

/-!
The curve that is used where none is named.
-/

namespace RingBallot.Curve

open scoped CorePower

def curve25519 : Curve where
  name := "Curve25519"
  a := 486662
  b := 1
  p := 2 ^ (255 : Nat) - 19
  n := 0x1000000000000000000000000000000014DEF9DEA2F79CD65812631A5CF5D3ED
  gx := 9
  gy := 0x20AE19A1B8A086B4E01EDD2C7748D14C923D4D7E6D7C61B229E9C5A27ECED3D9
  valid := by decide +kernel

end RingBallot.Curve
