import RingBallot.Settings.Scheme
import RingBallot.Json.Printer
import RingBallot.Json.Reader
import RingBallot.Log

/-!
Configurations as documents. Scheme values are checked when they are read; log values are kept
as they come. Writing a configuration and reading it back gives the same one.
-/

namespace RingBallot

structure LogSettings where
  level : Json
  file : Json
  format : Json
  maxSize : Json
  backups : Json
  deriving BEq

structure Configuration where
  scheme : Scheme
  log : LogSettings
  deriving BEq

def Json.membersAmong (names : List String) : Json → Outcome (List (String × Json))
  | .obj members =>
    match members.find? fun m => m.1 ∉ names with
    | some m => throw (.unknownField m.1)
    | none => pure members
  | _ => throw (.fieldType "configuration")

namespace Scheme

/-- A field of a scheme, with the value that it has when it is left out. -/
def field (members : List (String × Json)) (name : String) (missing : Number) : Outcome Number :=
  match (members.lookup name).map Json.number? with
  | none => pure missing
  | some none => throw (.fieldType name)
  | some (some x) => pure x

/-- The number of attempts is checked before the version byte is looked at. -/
def ofDocument (doc : Json) : Outcome Scheme := do
  let members ← doc.membersAmong ["max_sign_attempts", "version_byte"]
  let attempts ← field members "max_sign_attempts" default.attempts
  if attempts.below 1 then throw .tooFewAttempts
  let version ← field members "version_byte" default.version
  ofNumbers attempts version

def toDocument (s : Scheme) : Json :=
  .obj [("max_sign_attempts", .ofNumber s.attempts), ("version_byte", .ofNumber s.version)]

end Scheme

namespace LogSettings

def default : LogSettings where
  level := .str "WARNING"
  file := .null
  format := .str "%(asctime)s - %(name)s - %(levelname)s - %(message)s"
  maxSize := .int 10
  backups := .int 3

def ofDocument (doc : Json) : Outcome LogSettings := do
  let members ← doc.membersAmong ["level", "file", "format", "max_size_mb", "backup_count"]
  let field (name : String) (missing : Json) := (members.lookup name).getD missing
  return {
    level := field "level" default.level
    file := field "file" default.file
    format := field "format" default.format
    maxSize := field "max_size_mb" default.maxSize
    backups := field "backup_count" default.backups }

def toDocument (s : LogSettings) : Json :=
  .obj [("level", s.level), ("file", s.file), ("format", s.format), ("max_size_mb", s.maxSize),
    ("backup_count", s.backups)]

end LogSettings

namespace Configuration

def default : Configuration := ⟨.default, .default⟩

/-- Reads an object whose members may be missing; further members are ignored. -/
def ofDocument : Json → Outcome Configuration
  | .obj members => do
    let scheme ← Scheme.ofDocument ((members.lookup "scheme").getD (.obj []))
    let log ← LogSettings.ofDocument ((members.lookup "log").getD (.obj []))
    return ⟨scheme, log⟩
  | _ => throw .documentType

def toDocument (c : Configuration) : Json :=
  .obj [("scheme", c.scheme.toDocument), ("log", c.log.toDocument)]

def text (c : Configuration) : String := c.toDocument.indented

def savedRecord (path : String) : LogRecord := .info ("Configuration saved to " ++ path)

def loadedRecord (path : String) : LogRecord := .info ("Configuration loaded from " ++ path)

/-- The configuration in a file of the given content, and the records of loading it. A file
counts as loaded once it is a document, whatever the document holds. -/
def load (path content : String) : Outcome Configuration × List LogRecord :=
  match Json.parse content with
  | .error f => (throw f, [])
  | .ok doc => (ofDocument doc, [loadedRecord path])

end Configuration

end RingBallot
