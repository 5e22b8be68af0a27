import RingBallot.Digest

/-!
What can be signed: texts and byte strings. Any other value is carried along until its bytes are
asked for.
-/

namespace RingBallot

inductive Message
  | text (s : String)
  | bytes (bs : Bytes)
  | other (kind : Json.Kind)
  deriving DecidableEq

namespace Message

/-- A text stands for its UTF-8 bytes. -/
def toBytes : Message → Outcome Bytes
  | text s => pure s.toUTF8.data.toList
  | bytes bs => pure bs
  | other kind => throw (.notMessage kind)

/-- The digest of the message as a number, not reduced. -/
def number (m : Message) : Outcome Nat := do
  return Bytes.toNat (Digest.sha256 (← m.toBytes))

end Message

end RingBallot
