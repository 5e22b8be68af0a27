import RingBallot.Settings.Configuration
import RingBallot.Decimal

/-!
Environment variables laid over a configuration.
-/

namespace RingBallot.Configuration

def attemptsVariable : String := "VOTESIG_MAX_SIGN_ATTEMPTS"

def levelVariable : String := "VOTESIG_LOG_LEVEL"

def withAttempts (scheme : Scheme) (text : String) : Outcome Scheme := do
  Scheme.ofNumbers (.int (← Decimal.parse text)) scheme.version

/-- Overlays the two variables, as far as they are set. -/
def withEnvironment (env : String → Option String) (base : Configuration) :
    Outcome Configuration := do
  let scheme ← match env attemptsVariable with
    | some text => withAttempts base.scheme text
    | none => pure base.scheme
  let log := match env levelVariable with
    | some level => { base.log with level := .str level }
    | none => base.log
  return ⟨scheme, log⟩

end RingBallot.Configuration
