import RingBallot.Failure
import RingBallot.Text.Blank
import RingBallot.Text.DecimalDigit

/-!
Whole numbers in decimal text, as people write them in settings: blanks around, a sign in front,
single underscores between digits. Neither are very long numbers read, nor are they written.
-/

namespace RingBallot.Decimal

open scoped CorePower

/-- Numbers with more digits are neither read nor written. -/
def maxDigits : Nat := 4300

def Writable (n : Int) : Prop := n.natAbs < 10 ^ maxDigits

instance (n : Int) : Decidable (Writable n) := inferInstanceAs (Decidable (_ < _))

/-- A failure whose wording has the number `n` in it. -/
def worded (n : Int) (f : Failure) : Failure := if Writable n then f else .unwritable

/-- The longest run of digits, which may have single underscores between them: how many digits
there are, the number that they make, and what stands behind them. It goes on from `k` digits that
make `n`; that an underscore stands only between digits is watched by `afterDigit`. -/
def run : (afterDigit : Bool) → (k n : Nat) → List Char → Option (Nat × Nat × List Char)
  | afterDigit, k, n, [] => if afterDigit then some (k, n, []) else none
  | afterDigit, k, n, c :: cs =>
    match Text.digit? c with
    | some d => run true (k + 1) (10 * n + d) cs
    | none =>
      if !afterDigit then none
      else if c = '_' then run false k n cs
      else some (k, n, c :: cs)

/-- A sign and what stands behind it. -/
def signed : List Char → Bool × List Char
  | '-' :: cs => (true, cs)
  | '+' :: cs => (false, cs)
  | cs => (false, cs)

/-- Too long a run of digits is refused before what stands behind it is looked at. -/
def parse (text : String) : Outcome Int :=
  let (negative, cs) := signed (text.toList.dropWhile Text.isBlank)
  match run false 0 0 cs with
  | none => throw (.notWholeNumber text)
  | some (k, n, rest) =>
    if maxDigits < k then throw (.tooManyDigits k)
    else if rest.all Text.isBlank then pure (if negative then -(n : Int) else n)
    else throw (.notWholeNumber text)

end RingBallot.Decimal
