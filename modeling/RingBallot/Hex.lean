/-!
Hexadecimal text of whole numbers: a sign, `0x`, and lower-case digits without leading zeros,
or the digits padded to a width in which the sign counts.
-/

namespace RingBallot.Hex

/-- The lower-case base 16 digits of a number, `0` alone for zero. -/
def digits (n : Nat) : List Char := Nat.toDigits 16 n

def digit? (c : Char) : Option Nat :=
  if '0' ≤ c ∧ c ≤ '9' then some (c.toNat - '0'.toNat)
  else if 'a' ≤ c ∧ c ≤ 'f' then some (c.toNat - 'a'.toNat + 10)
  else if 'A' ≤ c ∧ c ≤ 'F' then some (c.toNat - 'A'.toNat + 10)
  else none

def toNat? (cs : List Char) : Option Nat :=
  if cs.isEmpty then none
  else cs.foldlM (fun n c => (digit? c).map (16 * n + ·)) 0

def ofInt (v : Int) : String :=
  String.ofList ((if v < 0 then ['-'] else []) ++ ['0', 'x'] ++ digits v.natAbs)

/-- Reads what `ofInt` writes, and digits of either case with leading zeros. -/
def toInt? (text : String) : Option Int :=
  match text.toList with
  | '-' :: '0' :: 'x' :: cs => (toNat? cs).map fun n => -(n : Int)
  | '0' :: 'x' :: cs => (toNat? cs).map fun n => (n : Int)
  | _ => none

/-- The digits behind a sign and as many zeros as bring sign and digits to `width` characters. -/
def padded (width : Nat) (v : Int) : String :=
  let sign := if v < 0 then ['-'] else []
  let ds := digits v.natAbs
  String.ofList (sign ++ List.replicate (width - sign.length - ds.length) '0' ++ ds)

end RingBallot.Hex
