import RingBallot.Base32
import RingBallot.Decimal

/-!
Printable key material: base 32 text of a version byte and a payload. The version byte alone
decides the first character.
-/

namespace RingBallot.KeyText

def maxPayload : Nat := 100

def version (v : Int) : Outcome Version :=
  match Version.ofNumber? v with
  | some v => pure v
  | none => throw (Decimal.worded v (.unknownVersion v))

def encode (v : Version) (payload : Bytes) : Outcome String :=
  if maxPayload < payload.length then throw .payloadTooLong
  else pure (Base32.encode (v.byte :: payload))

/-- The payload of a text of the expected version, which has two bytes at least. -/
def decode (expected : Version) (text : String) : Outcome Bytes := do
  let raw ← Base32.decode text
  if raw.length < 3 then throw .textTooShort
  if raw.headD 0 ≠ expected.byte then throw (.wrongVersion expected (raw.headD 0))
  return raw.tail

end RingBallot.KeyText
