import RingBallot.Json.Basic
import RingBallot.Hex

/-!
Documents as ASCII text, on one line or with two blanks of indentation for each level.
-/

namespace RingBallot.Json

def unitEscape (u : Nat) : String := "\\u" ++ Hex.padded 4 u

/-- Printable ASCII stands for itself, quotes and backslashes behind a backslash. -/
def escaped (c : Char) : String :=
  if c = '"' then "\\\""
  else if c = '\\' then "\\\\"
  else if c = '\n' then "\\n"
  else if c = '\r' then "\\r"
  else if c = '\t' then "\\t"
  else if c = '\x08' then "\\b"
  else if c = '\x0c' then "\\f"
  else if 32 ≤ c.toNat ∧ c.toNat < 127 then c.toString
  else if c.toNat < 0x10000 then unitEscape c.toNat
  else
    let n := c.toNat - 0x10000
    unitEscape (0xD800 + n / 0x400) ++ unitEscape (0xDC00 + n % 0x400)

def quoted (s : String) : String := "\"" ++ String.join (s.toList.map escaped) ++ "\""

structure Layout where
  /-- After an opening bracket, before a closing one, and after a comma, at a depth. -/
  newline : Nat → String
  colon : String

def Layout.compact : Layout := ⟨fun _ => "", ":"⟩

def Layout.indented : Layout :=
  ⟨fun depth => "\n" ++ String.ofList (List.replicate (2 * depth) ' '), ": "⟩

/-- The parts between two brackets, at the depth of the container. An empty container has no
space between its brackets. -/
def enclose (l : Layout) (depth : Nat) (opening closing : String) (parts : List String) : String :=
  if parts.isEmpty then opening ++ closing
  else
    opening ++ l.newline (depth + 1) ++ ("," ++ l.newline (depth + 1)).intercalate parts ++
      l.newline depth ++ closing

mutual

def render (l : Layout) (depth : Nat) : Json → String
  | .null => "null"
  | .bool b => if b then "true" else "false"
  | .int n => toString n
  | .real x => x.text
  | .str s => quoted s
  | .arr items => enclose l depth "[" "]" (renderItems l (depth + 1) items)
  | .obj members => enclose l depth "\x7b" "\x7d" (renderMembers l (depth + 1) members)

def renderItems (l : Layout) (depth : Nat) : List Json → List String
  | [] => []
  | v :: rest => render l depth v :: renderItems l depth rest

def renderMembers (l : Layout) (depth : Nat) : List (String × Json) → List String
  | [] => []
  | (k, v) :: rest => (quoted k ++ l.colon ++ render l depth v) :: renderMembers l depth rest

end

def compact (v : Json) : String := v.render .compact 0

def indented (v : Json) : String := v.render .indented 0

end RingBallot.Json
