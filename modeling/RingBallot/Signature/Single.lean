import RingBallot.Settings.Scheme
import RingBallot.KeyPair
import RingBallot.Message
import RingBallot.Signature.Verdict

/-!
Signatures of one key, of the shape of ECDSA. A nonce `k` commits to the abscissa `r` of its
multiple of the generator, and `s` is `(e + d r) / k` for the digest `e` and the secret `d`. The
signer goes through the nonces it is given and uses the first for which neither scalar is zero.
-/

namespace RingBallot

open Residue

structure Signature where
  r : Int
  s : Int
  deriving DecidableEq

/-- What a signer did: its result, how many random numbers it took, and the nonces it passed
over. -/
structure Signing (σ : Type) (α : Type) where
  outcome : Outcome α
  drawsUsed : Nat
  skipped : List σ
  deriving DecidableEq

def Signing.andThen {σ α β : Type} (run : Signing σ α) (f : α → Outcome β) : Signing σ β :=
  ⟨run.outcome >>= f, run.drawsUsed, run.skipped⟩

namespace Signature

def outside? (order : Int) (σ : Signature) : Option Component :=
  if ¬ (1 ≤ σ.r ∧ σ.r ≤ order - 1) then some .r
  else if ¬ (1 ≤ σ.s ∧ σ.s ≤ order - 1) then some .s
  else none

def checkRange (order : Int) (σ : Signature) : Outcome Unit :=
  match σ.outside? order with
  | some c => throw (.outOfRange c)
  | none => pure ()

/-- 65 bytes: a version and both scalars. -/
def entry (version : UInt8) (σ : Signature) : Outcome Bytes := do
  let r ← Bytes.ofInt Curve.width σ.r
  let s ← Bytes.ofInt Curve.width σ.s
  return version :: (r ++ s)

def toBytes (scheme : Scheme) (σ : Signature) : Outcome Bytes := do
  entry (← scheme.versionByte) σ

/-- Reads 65 bytes, whatever the first one is. -/
def ofBytes (bs : Bytes) : Outcome Signature :=
  if bs.length ≠ 65 then throw (.signatureLength bs.length)
  else pure ⟨Bytes.toNat (bs.tail.take Curve.width), Bytes.toNat (bs.tail.drop Curve.width)⟩

/-! ### Signing -/

inductive Degenerate
  | zeroNonce
  | zeroR
  | zeroS
  deriving DecidableEq

/-- A nonce that was passed over, and which attempt it was, counted from 1. -/
structure Skip where
  cause : Degenerate
  attempt : Nat
  deriving DecidableEq

def Skip.record (x : Skip) : LogRecord :=
  let why := match x.cause with
    | .zeroNonce => "zero nonce drawn"
    | .zeroR => "r = 0"
    | .zeroS => "s = 0"
  .debug (why ++ ", retrying (attempt " ++ toString x.attempt ++ ")")

def log {α : Type} (run : Signing Skip α) : List LogRecord := run.skipped.map Skip.record

variable (E : Curve)

/-- What the nonce `k` gives for the digest `e` and the secret `d`. -/
def trial (e d k : Int) : Outcome (Except Degenerate Signature) := do
  if k = 0 then return .error .zeroNonce
  match ← E.baseMul k with
  | .infinity => throw .infiniteCommitment
  | .affine x _ =>
    let r := x % E.n
    if r = 0 then return .error .zeroR
    let w ← inverse k E.n
    let s := w * (e + d * r) % E.n
    if s = 0 then return .error .zeroS
    return .ok ⟨r, s⟩

/-- Tries the draws from number `taken` on, `left` of them at most; `limit` is the number of
attempts as it was set. -/
def search (limit : Number) (e d : Int) (draws : Nat → Int) :
    (left taken : Nat) → Signing Skip Signature
  | 0, taken => ⟨throw (.noUsableNonce limit), taken, []⟩
  | left + 1, taken =>
    match trial E e d (draws taken % E.n) with
    | .error f => ⟨throw f, taken + 1, []⟩
    | .ok (.ok σ) => ⟨pure σ, taken + 1, []⟩
    | .ok (.error why) =>
      let rest := search limit e d draws left (taken + 1)
      { rest with skipped := ⟨why, taken + 1⟩ :: rest.skipped }

/-- Signs with a secret scalar, taking nonces from `draws`. The message is looked at before the
number of attempts. -/
def sign (m : Message) (d : Int) (scheme : Scheme) (draws : Nat → Int) : Signing Skip Signature :=
  let input : Outcome (Nat × Nat) := do return (← m.number, ← scheme.attemptCount)
  match input with
  | .error f => ⟨throw f, 0, []⟩
  | .ok (e, count) => search E scheme.attempts e (d % E.n) draws count 0

/-! ### Verifying -/

inductive Rejection
  | keyOutside
  | component (c : Component)
  /-- The combined point is infinity. -/
  | degenerate
  | equation
  deriving DecidableEq

/-- A failed equation is not reported. -/
def Rejection.report : Rejection → Option String
  | keyOutside => some "Signature rejected: public key outside the subgroup"
  | component c => some ("Signature rejected: " ++ c.outside)
  | degenerate => some "Signature rejected: combined point is degenerate"
  | equation => none

/-- The point whose abscissa is compared with `r`. -/
def combined (e : Nat) (Y : Point) (σ : Signature) : Outcome Point := do
  let w ← inverse σ.s E.n
  let P ← E.baseMul (e * w % E.n : Int)
  let Q ← E.mul (σ.r * w % E.n) Y
  E.add P Q

def verify (m : Message) (Y : Point) (σ : Signature) : Outcome (Verdict Rejection) := do
  if !(← E.inSubgroup Y) then return .rejected .keyOutside
  match σ.outside? E.n with
  | some c => return .rejected (.component c)
  | none =>
    let e ← m.number
    let X ← combined E e Y σ
    match X with
    | .infinity => return .rejected .degenerate
    | .affine x _ =>
      if ¬ E.Contains X then return .rejected .degenerate
      if x % E.n = σ.r then return .accepted else return .rejected .equation

/-! ### Byte forms -/

/-- Signs with the 32 bytes of a secret scalar; the random numbers are made scalars first. -/
def signBytes (m : Message) (secret : Bytes) (scheme : Scheme) (draws : Nat → Int) :
    Signing Skip Bytes :=
  match KeyPair.ofBytes E secret with
  | .error f => ⟨throw f, 0, []⟩
  | .ok kp =>
    (sign E m kp.secret scheme fun i => scalar E.n (draws i)).andThen (toBytes scheme)

/-- Verifies 65 bytes against the 33 bytes of a public key, which is read first. -/
def verifyBytes (m : Message) (key signature : Bytes) : Outcome (Verdict Rejection) := do
  let Y ← E.publicKeyOfBytes key
  let σ ← ofBytes signature
  verify E m Y σ

end Signature

end RingBallot
