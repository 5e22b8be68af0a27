import RingBallot.Binary64.Basic

/-!
The shortest decimal for a number of double precision. Decimals stand for the number to which they
are nearest, so a number is told by any decimal of the interval around it; the coarsest decimal
grid that meets the interval has the decimals with the fewest digits.
-/

namespace RingBallot.Binary64

open scoped CorePower

/-- The distance from a magnitude to the next smaller one, half as much at a power of two. -/
def gapBelow (u : Nat) : Nat :=
  if u = 2 ^ (52 : Nat) * gap u ∧ 1 < gap u then gap u / 2 else gap u

/-- Whether `num / den` half units lie among what is nearest to the magnitude `u`. The ends of the
interval belong to an even multiple of its gap. -/
def tells (u num den : Nat) : Bool :=
  let low := (2 * u - gapBelow u) * den
  let high := (2 * u + gap u) * den
  (low < num && num < high) || (u / gap u % 2 = 0 && (num = low || num = high))

structure Scientific where
  digits : Nat
  exponent : Int
  deriving DecidableEq

/-- The multiple of `10 ^ k` that tells `u`, if there is one. Of two that do the nearer is taken,
and the even one at a tie. -/
def onGrid (u : Nat) (k : Int) : Option Scientific :=
  let den := 10 ^ (-k).toNat
  let step := 10 ^ k.toNat * (2 * one)
  let num := 2 * u * den
  let c := num / step
  let r := num % step
  let below := tells u (c * step) den
  let above := tells u ((c + 1) * step) den
  let chooseBelow := !above || 2 * r < step || (2 * r = step && c % 2 = 0)
  if below && chooseBelow then some ⟨c, k⟩
  else if above then some ⟨c + 1, k⟩
  else none

/-- The first of the grids of `10 ^ (n - 324)` and finer ones that meets the interval. -/
def search (u : Nat) : Nat → Scientific
  | 0 => (onGrid u (-324)).getD ⟨u, -324⟩
  | n + 1 => (onGrid u ((n : Int) + 1 - 324)).getD (search u n)

/-- The shortest decimal that tells a magnitude other than zero. -/
def shortest (u : Nat) : Scientific := search u (324 + 308)

/-! ### Text -/

def exponentText (e : Int) : List Char :=
  let ds := Nat.toDigits 10 e.natAbs
  ['e', if e < 0 then '-' else '+'] ++ List.replicate (2 - ds.length) '0' ++ ds

/-- Digits with a point behind the first `k`, and a zero where a side of the point has none. -/
def pointed (ds : List Char) (k : Int) : List Char :=
  let whole := ds.take k.toNat ++ List.replicate (k.toNat - ds.length) '0'
  let part := List.replicate (-k).toNat '0' ++ ds.drop k.toNat
  (if whole.isEmpty then ['0'] else whole) ++ ['.'] ++ (if part.isEmpty then ['0'] else part)

/-- A decimal with all its digits from `0.0001` up to below `10 ^ 16`, otherwise one digit, the
others behind a point if there are any, and the exponent. -/
def Scientific.text (d : Scientific) : List Char :=
  let all := Nat.toDigits 10 d.digits
  let ds := (all.reverse.dropWhile (· = '0')).reverse
  let e := d.exponent + all.length - 1
  if -4 ≤ e ∧ e < 16 then pointed ds (e + 1)
  else
    match ds with
    | [c] => c :: exponentText e
    | c :: cs => c :: '.' :: cs ++ exponentText e
    | [] => []

def sign (negative : Bool) : List Char := if negative then ['-'] else []

def text : Binary64 → String
  | finite negative u =>
    String.ofList (sign negative ++ if u = 0 then ['0', '.', '0'] else (shortest u).text)
  | infinite negative => String.ofList (sign negative ++ "Infinity".toList)
  | nan => "NaN"

end RingBallot.Binary64
