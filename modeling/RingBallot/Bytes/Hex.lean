import RingBallot.Bytes

/-!
Bytes as hexadecimal text. Written without blanks and in lower case; read with blanks between
the pairs of digits and in either case.
-/

namespace RingBallot.Bytes

def toHex (bs : Bytes) : String :=
  String.join (bs.map fun b => Hex.padded 2 b.toNat)

def isBlank (c : Char) : Bool :=
  c = ' ' || c = '\t' || c = '\n' || c = '\r' || c = '\x0b' || c = '\x0c'

/-- Reads pairs of digits from position `k` on. A fault is the position of the first character
that is no digit where one is needed. -/
def scanPairs : Nat → List Char → Except Nat Bytes
  | _, [] => .ok []
  | k, c :: cs =>
    if isBlank c then scanPairs (k + 1) cs
    else
      match Hex.digit? c, cs with
      | none, _ => .error k
      | some _, [] => .error (k + 1)
      | some high, d :: ds =>
        match Hex.digit? d with
        | none => .error (k + 1)
        | some low => (scanPairs (k + 2) ds).map (UInt8.ofNat (16 * high + low) :: ·)

/-- The bytes of a text, or the position of its fault. A character beyond ASCII is a fault before
any other. -/
def scanHex (text : String) : Except Nat Bytes :=
  match text.toList.findIdx? fun c => 127 < c.toNat with
  | some k => .error k
  | none => scanPairs 0 text.toList

def ofHex (text : String) : Outcome Bytes := (scanHex text).mapError .notHex

end RingBallot.Bytes
