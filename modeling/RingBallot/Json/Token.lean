import RingBallot.Binary64.Rounding
import RingBallot.Decimal
import RingBallot.Json.Basic
import RingBallot.Hex

/-!
Tokens of a document, in one pass over its characters. A word is a run of characters between
blanks, brackets, commas, colons and quotes; a text is kept as UTF-16 units until it ends, so
that two escapes may make one character. A fault is a token, so that whoever reads the tokens finds
the first fault.
-/

namespace RingBallot.Json

inductive Token
  | openBracket
  | closeBracket
  | openBrace
  | closeBrace
  | comma
  | colon
  | scalar (v : Json)
  /-- A whole number with more digits than are read. -/
  | tooLong (digits : Nat)
  /-- Characters that make no token. What follows them is never looked at. -/
  | malformed

namespace Token

/-! ### Numbers -/

def decimal (ds : List Char) : Nat := ds.foldl (fun n c => 10 * n + (c.toNat - '0'.toNat)) 0

def signed (negative : Bool) (n : Nat) : Int := if negative then -(n : Int) else n

def exponent? : List Char → Option Int
  | [] => some 0
  | _ :: cs =>
    let (negative, ds) := match cs with
      | '-' :: ds => (true, ds)
      | '+' :: ds => (false, ds)
      | _ => (false, cs)
    if !ds.isEmpty && ds.all Char.isDigit then some (signed negative (decimal ds)) else none

def startsExponent : List Char → Bool
  | e :: c :: cs =>
    (e = 'e' || e = 'E') &&
      (c.isDigit || ((c = '+' || c = '-') && (cs.head?.any Char.isDigit)))
  | _ => false

def startsFraction : List Char → Bool
  | '.' :: c :: _ => c.isDigit
  | _ => false

/-- A number with its whole digits and what stands behind them, which starts a fraction or an
exponent. -/
def real (negative : Bool) (whole rest : List Char) : Token :=
  let (fraction, rest) := if startsFraction rest then
      ((rest.drop 1).takeWhile Char.isDigit, (rest.drop 1).dropWhile Char.isDigit)
    else ([], rest)
  if rest.isEmpty || startsExponent rest then
    match exponent? rest with
    | some e =>
      scalar (.real (.ofDecimal negative (decimal (whole ++ fraction)) (e - fraction.length)))
    | none => malformed
  else malformed

/-- A number has no leading zeros, and is whole if it has neither a fraction nor an exponent. -/
def number (cs : List Char) : Token :=
  let (negative, cs) := match cs with
    | '-' :: cs => (true, cs)
    | _ => (false, cs)
  let whole := cs.takeWhile Char.isDigit
  let rest := cs.dropWhile Char.isDigit
  if whole.isEmpty || (1 < whole.length && whole.head? = some '0') then malformed
  else if startsFraction rest || startsExponent rest then real negative whole rest
  else if Decimal.maxDigits < whole.length then tooLong whole.length
  else if rest.isEmpty then scalar (.int (signed negative (decimal whole)))
  else malformed

def word (cs : List Char) : Token :=
  match String.ofList cs with
  | "null" => scalar .null
  | "true" => scalar (.bool true)
  | "false" => scalar (.bool false)
  | "NaN" => scalar (.real .nan)
  | "Infinity" => scalar (.real (.infinite false))
  | "-Infinity" => scalar (.real (.infinite true))
  | _ => number cs

/-! ### Texts -/

def isHigh (u : Nat) : Bool := 0xD800 ≤ u && u < 0xDC00

def isLow (u : Nat) : Bool := 0xDC00 ≤ u && u < 0xE000

/-- The character of one unit; half a pair has none and is replaced. -/
def unitChar (u : Nat) : Char := if isHigh u || isLow u then '\ufffd' else Char.ofNat u

/-- The characters of units that stand last first, in front of `acc`. -/
def joinUnits : List Char → List Nat → List Char
  | acc, [] => acc
  | acc, [u] => unitChar u :: acc
  | acc, l :: h :: us =>
    if isLow l && isHigh h then
      joinUnits (Char.ofNat (0x10000 + (h - 0xD800) * 0x400 + (l - 0xDC00)) :: acc) us
    else joinUnits (unitChar l :: acc) (h :: us)

def escape? : Char → Option Char
  | '"' => some '"'
  | '\\' => some '\\'
  | '/' => some '/'
  | 'b' => some '\x08'
  | 'f' => some '\x0c'
  | 'n' => some '\n'
  | 'r' => some '\r'
  | 't' => some '\t'
  | _ => none

/-! ### Scanning -/

inductive Mode
  | between
  /-- In a word, its characters last first. -/
  | word (cs : List Char)
  /-- In a text, its units last first. -/
  | text (us : List Nat)

def isBlank (c : Char) : Bool := c = ' ' || c = '\t' || c = '\n' || c = '\r'

def mark? : Char → Option Token
  | '[' => some openBracket
  | ']' => some closeBracket
  | '{' => some openBrace
  | '}' => some closeBrace
  | ',' => some comma
  | ':' => some colon
  | _ => none

/-- The tokens, last first, and the mode after a character outside words and texts. -/
def start (ts : List Token) (c : Char) : List Token × Mode :=
  if isBlank c then (ts, .between)
  else if c = '"' then (ts, .text [])
  else
    match mark? c with
    | some t => (t :: ts, .between)
    | none => (ts, .word [c])

def ends (c : Char) : Bool := isBlank c || c = '"' || (mark? c).isSome

/-- The tokens from the given mode on, behind those that stand last first in `ts`. -/
def scan : List Token → Mode → List Char → List Token
  | ts, .between, [] => ts.reverse
  | ts, .between, c :: cs =>
    let (ts, m) := start ts c
    scan ts m cs
  | ts, .word w, [] => (word w.reverse :: ts).reverse
  | ts, .word w, c :: cs =>
    if ends c then
      let (ts, m) := start (word w.reverse :: ts) c
      scan ts m cs
    else scan ts (.word (c :: w)) cs
  | ts, .text _, [] => (malformed :: ts).reverse
  | ts, .text us, '"' :: cs =>
    scan (scalar (.str (String.ofList (joinUnits [] us))) :: ts) .between cs
  | ts, .text us, '\\' :: 'u' :: a :: b :: c :: d :: cs =>
    match Hex.toNat? [a, b, c, d] with
    | none => (malformed :: ts).reverse
    | some u => scan ts (.text (u :: us)) cs
  | ts, .text us, '\\' :: c :: cs =>
    match escape? c with
    | none => (malformed :: ts).reverse
    | some e => scan ts (.text (e.toNat :: us)) cs
  | ts, .text us, c :: cs =>
    if c.toNat < 32 || c = '\\' then (malformed :: ts).reverse
    else scan ts (.text (c.toNat :: us)) cs

def ofText (text : String) : List Token := scan [] .between text.toList

end Token

end RingBallot.Json
