import RingBallot.Hex
import RingBallot.Text.Printable

/-!
Texts between quotes, as reports show them.
-/

namespace RingBallot.Text

/-- The code of a character behind a backslash, with as many digits as its size asks for. -/
def codeEscape (c : Char) : List Char :=
  if c.toNat < 0x100 then ['\\', 'x'] ++ (Hex.padded 2 c.toNat).toList
  else if c.toNat < 0x10000 then ['\\', 'u'] ++ (Hex.padded 4 c.toNat).toList
  else ['\\', 'U'] ++ (Hex.padded 8 c.toNat).toList

/-- A character between quotes `q`. Line breaks and tabs have letters, and what is not printable is
shown by its code. -/
def spelled (q c : Char) : List Char :=
  if c = q ∨ c = '\\' then ['\\', c]
  else if c = '\n' then ['\\', 'n']
  else if c = '\r' then ['\\', 'r']
  else if c = '\t' then ['\\', 't']
  else if isPrintable c then [c]
  else codeEscape c

/-- Double quotes stand around a text that holds single ones and no double ones. -/
def quote (cs : List Char) : Char := if '\'' ∈ cs ∧ '"' ∉ cs then '"' else '\''

def quoted (text : String) : String :=
  let cs := text.toList
  let q := quote cs
  String.ofList (q :: cs.flatMap (spelled q) ++ [q])

end RingBallot.Text
