import RingBallot.Settings.Configuration
import RingBallot.Text.Word

/-!
What log settings amount to: a threshold and the handlers that records go to.
-/

namespace RingBallot

inductive LogHandler
  | stream
  | rotatingFile (maxBytes : Number) (backups : Json)

structure LogPlan where
  threshold : Nat
  handlers : List LogHandler

namespace LogSettings

/-- Upper case, as far as it matters for the names below: a few letters beyond ASCII have capitals
in it. -/
def capitals (c : Char) : List Char :=
  if c = 'ı' then ['I']
  else if c = 'ſ' then ['S']
  else if c = 'ﬅ' ∨ c = 'ﬆ' then ['S', 'T']
  else [c.toUpper]

/-- The threshold of a level name. A name that means nothing counts as `INFO`; two names mean
something else than a level. -/
def threshold (name : String) : Outcome Nat :=
  match String.ofList (name.toList.flatMap capitals) with
  | "NOTSET" => pure 0
  | "DEBUG" => pure 10
  | "WARNING" | "WARN" => pure 30
  | "ERROR" => pure 40
  | "CRITICAL" | "FATAL" => pure 50
  | "BASIC_FORMAT" => throw (.unknownLevel "%(levelname)s:%(name)s:%(message)s")
  | "_STYLES" => throw (.fieldType "level")
  | _ => pure 20

def isSet : Json → Bool
  | .null => false
  | .bool b => b
  | .int n => n ≠ 0
  | .real x => !x.isZero
  | .str s => s ≠ ""
  | .arr items => !items.isEmpty
  | .obj members => !members.isEmpty

def fileHandler (s : LogSettings) : Outcome (List LogHandler) :=
  if isSet s.file then
    match s.file, s.maxSize.number? with
    | .str _, some megabytes => pure [.rotatingFile (megabytes.scale 20) s.backups]
    | .str _, none => throw (.fieldType "max_size_mb")
    | _, _ => throw (.fieldType "file")
  else pure []

/-! ### Formats -/

/-- A width or a precision: a star, or digits. -/
def dropCount : List Char → List Char
  | '*' :: cs => cs
  | cs => cs.dropWhile fun c => (Text.digit? c).isSome

/-- What may follow the name of a field: flags, width, precision, and the letter of a conversion in
either case, three letters beyond ASCII being cases of letters in it. -/
def isConversion (cs : List Char) : Bool :=
  let rest := dropCount (cs.dropWhile fun c => c ∈ ['#', '0', '+', ' ', '-'])
  let rest := match rest with
    | '.' :: cs => if dropCount cs = cs then rest else dropCount cs
    | _ => rest
  match rest with
  | c :: _ => c.toLower ∈ "diouxefgcrsa%İıſ".toList
  | [] => false

/-- A named field with its conversion starts here. -/
def isFieldAt : List Char → Bool
  | '%' :: '(' :: cs =>
    !(cs.takeWhile Text.isWord).isEmpty &&
      match cs.dropWhile Text.isWord with
      | ')' :: rest => isConversion rest
      | _ => false
  | _ => false

/-- A format must have a named field somewhere. -/
def hasField : List Char → Bool
  | [] => false
  | c :: cs => isFieldAt (c :: cs) || hasField cs

def checkFormat (format : Json) : Outcome Unit :=
  if isSet format then
    match format with
    | .str text => if hasField text.toList then pure () else throw (.logFormat text)
    | _ => throw (.fieldType "format")
  else pure ()

/-- The level must be text; then the file is looked at, then what the level means, then the
format. -/
def plan (s : LogSettings) : Outcome LogPlan := do
  let name ← match s.level with
    | .str name => pure name
    | _ => throw .levelType
  let file ← s.fileHandler
  let level ← threshold name
  checkFormat s.format
  return ⟨level, .stream :: file⟩

end LogSettings

end RingBallot
