/-!
Records that operations leave for whoever keeps a log.
-/

namespace RingBallot

inductive Severity
  | debug
  | info
  deriving DecidableEq

def Severity.name : Severity → String
  | debug => "DEBUG"
  | info => "INFO"

structure LogRecord where
  severity : Severity
  text : String
  deriving DecidableEq

namespace LogRecord

def debug (text : String) : LogRecord := ⟨.debug, text⟩

def info (text : String) : LogRecord := ⟨.info, text⟩

def line (r : LogRecord) : String := r.severity.name ++ " " ++ r.text

end LogRecord

end RingBallot
