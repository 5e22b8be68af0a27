import RingBallot.Failure
import RingBallot.Json.Token

/-!
Documents from tokens, with the containers part way through held in a stack. Of members with one
name the last value counts.
-/

namespace RingBallot.Json

/-- A container that waits for a value, its contents last first. -/
inductive Frame
  | items (rev : List Json)
  | member (rev : List (String × Json)) (name : String)

inductive Reading
  /-- A value must follow. -/
  | value (stack : List Frame)
  /-- An array has just been opened. -/
  | firstItem (stack : List Frame)
  /-- An object has just been opened. -/
  | firstName (stack : List Frame)
  /-- The name of a further member must follow. -/
  | name (rev : List (String × Json)) (stack : List Frame)
  | colon (rev : List (String × Json)) (name : String) (stack : List Frame)
  /-- A value has just ended. -/
  | after (v : Json) (stack : List Frame)

namespace Reading

def stepValue (fs : List Frame) : Token → Outcome Reading
  | .scalar v => pure (after v fs)
  | .openBracket => pure (firstItem fs)
  | .openBrace => pure (firstName fs)
  | .tooLong digits => throw (.tooManyDigits digits)
  | _ => throw .documentSyntax

def stepName (rev : List (String × Json)) (fs : List Frame) : Token → Outcome Reading
  | .scalar (.str k) => pure (colon rev k fs)
  | _ => throw .documentSyntax

def step : Reading → Token → Outcome Reading
  | value fs, t => stepValue fs t
  | firstItem fs, .closeBracket => pure (after (arr []) fs)
  | firstItem fs, t => stepValue (.items [] :: fs) t
  | firstName fs, .closeBrace => pure (after (obj []) fs)
  | firstName fs, t => stepName [] fs t
  | name rev fs, t => stepName rev fs t
  | colon rev k fs, .colon => pure (value (.member rev k :: fs))
  | after v (.items rev :: fs), .comma => pure (value (.items (v :: rev) :: fs))
  | after v (.items rev :: fs), .closeBracket => pure (after (arr (v :: rev).reverse) fs)
  | after v (.member rev k :: fs), .comma => pure (name ((k, v) :: rev) fs)
  | after v (.member rev k :: fs), .closeBrace =>
    pure (after (ofMembers ((k, v) :: rev).reverse) fs)
  | _, _ => throw .documentSyntax

end Reading

def parse (text : String) : Outcome Json := do
  match ← (Token.ofText text).foldlM Reading.step (.value []) with
  | .after v [] => return v
  | _ => throw .documentSyntax

end RingBallot.Json
