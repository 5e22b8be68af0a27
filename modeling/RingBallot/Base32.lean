import RingBallot.Bytes
import RingBallot.Grouping

/-!
Base 32 text: five bits to a character and equals signs up to a multiple of eight characters.
Reading takes as many whole bytes as there are, so bits left over at the end do not count.
-/

namespace RingBallot.Base32

open scoped CorePower

def alphabet : List Char := "ABCDEFGHIJKLMNOPQRSTUVWXYZ234567".toList

/-- The last `width` binary digits of a number, highest first. -/
def bits : Nat → Nat → List Bool
  | 0, _ => []
  | width + 1, n => bits width (n / 2) ++ [n % 2 == 1]

def value (bs : List Bool) : Nat := bs.foldl (fun n b => 2 * n + b.toNat) 0

/-- The character for at most five bits, missing ones being zero. -/
def char (bs : List Bool) : Char :=
  alphabet.getD (value (bs ++ List.replicate (5 - bs.length) false)) 'A'

def digit (c : Char) : Outcome Nat :=
  match alphabet.idxOf? c with
  | some k => pure k
  | none => throw .textDigit

/-- The equals signs behind `k` characters. -/
def padding (k : Nat) : List Char := List.replicate ((8 - k % 8) % 8) '='

def encode (bs : Bytes) : String :=
  let cs := (groupsOf 5 (bs.flatMap fun b => bits 8 b.toNat)).map char
  String.ofList (cs ++ padding cs.length)

def bytes (bs : List Bool) : Bytes :=
  ((groupsOf 8 bs).filter fun g => g.length = 8).map fun g => UInt8.ofNat (value g)

/-- The characters without the equals signs at the end. -/
def body (cs : List Char) : List Char := (cs.reverse.dropWhile (· = '=')).reverse

/-- The faults are looked for in the order of the lines. -/
def decode (text : String) : Outcome Bytes := do
  let cs := text.toList
  if cs.any fun c => 127 < c.toNat then throw .textNotAscii
  if cs.length % 8 ≠ 0 then throw .textPadding
  let values ← (body cs).mapM digit
  if cs.length - (body cs).length ∉ [0, 1, 3, 4, 6] then throw .textPadding
  return bytes (values.flatMap (bits 5))

@[simp] theorem length_bits (width n : Nat) : (bits width n).length = width := by
  induction width generalizing n with
  | zero => rfl
  | succ w ih => simp [bits, ih]

theorem value_concat (bs : List Bool) (b : Bool) : value (bs ++ [b]) = 2 * value bs + b.toNat := by
  simp [value, List.foldl_append]

theorem value_bits (width n : Nat) : value (bits width n) = n % 2 ^ width := by
  induction width generalizing n with
  | zero => simp [bits, value, Nat.mod_one]
  | succ w ih =>
    rw [bits, value_concat, ih, Nat.pow_succ, Nat.mul_comm (2 ^ w), Nat.mod_mul]
    have : (n % 2 == 1).toNat = n % 2 := by
      rcases Nat.mod_two_eq_zero_or_one n with h | h <;> simp [h]
    omega

end RingBallot.Base32
