import RingBallot.Failure

/-!
What signing can be told: how many nonces to try, and the byte in front of every signature. A
scheme holds numbers of any kind that lie in the right intervals; only whole ones can be used.
-/

namespace RingBallot

structure Scheme where
  attempts : Number
  version : Number
  attempts_pos : attempts.below 1 = false
  version_within : version.within 0 255 = true
  deriving DecidableEq

namespace Scheme

/-- Checks the number of attempts first. -/
def ofNumbers (attempts version : Number) : Outcome Scheme :=
  if h : attempts.below 1 = false then
    if hv : version.within 0 255 = true then pure ⟨attempts, version, h, hv⟩
    else throw .versionTooBig
  else throw .tooFewAttempts

def ofWhole (attempts : Nat) (version : UInt8) (h : 0 < attempts) : Scheme where
  attempts := .int attempts
  version := .int version.toNat
  attempts_pos := by simp only [Number.below_int, decide_eq_false_iff_not]; omega
  version_within := by
    have := version.toNat_lt
    simp only [Number.within_int, decide_eq_true_eq]
    omega

/-- 64 attempts, and the digit zero in front. -/
def default : Scheme := ofWhole 64 48 (by decide)

instance : Inhabited Scheme := ⟨default⟩

def attemptCount (s : Scheme) : Outcome Nat :=
  match s.attempts.whole? with
  | some n => pure n.toNat
  | none => throw (.fieldType "max_sign_attempts")

def versionByte (s : Scheme) : Outcome UInt8 :=
  match s.version.whole? with
  | some n => pure (UInt8.ofNat n.toNat)
  | none => throw (.fieldType "version_byte")

end Scheme

end RingBallot
