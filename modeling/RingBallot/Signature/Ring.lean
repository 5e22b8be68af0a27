import RingBallot.Signature.Challenge
import RingBallot.Signature.Single

/-!
Linkable ring signatures. Whoever signs knows the secret of one member of a ring; each member
has a challenge share and a response, and the shares add up to the challenge over all
commitments. The key image depends on the signer's key alone, so two signatures of one key show
it.
-/

namespace RingBallot

open Residue

structure RingSignature where
  keyImage : Point
  c : List Int
  r : List Int
  deriving DecidableEq

namespace RingSignature

-- the zero of sums is the core library's, whatever is imported
attribute [local instance (high)] Zero.ofOfNat0

def size (σ : RingSignature) : Nat := σ.c.length

/-- The first of the pairs, counted from `i` on, with a component outside `[0, order - 1]`. -/
def firstOutside (order : Int) : Nat → List (Int × Int) → Option Component
  | _, [] => none
  | i, (c, r) :: rest =>
    if ¬ (0 ≤ c ∧ c ≤ order - 1) then some (.challenge i)
    else if ¬ (0 ≤ r ∧ r ≤ order - 1) then some (.response i)
    else firstOutside order (i + 1) rest

/-- The first component out of range, as far as shares and responses go together. -/
def outside? (order : Int) (σ : RingSignature) : Option Component :=
  firstOutside order 0 (σ.c.zip σ.r)

def checkRange (order : Int) (σ : RingSignature) : Outcome Unit :=
  match σ.outside? order with
  | some c => throw (.outOfRange c)
  | none => pure ()

def linked (σ τ : RingSignature) : Bool := σ.keyImage = τ.keyImage

variable (E : Curve)

/-! ### Byte forms -/

/-- 65 bytes for each member, and the 33 bytes of the key image. -/
structure Wire where
  entries : List Bytes
  keyImage : Bytes
  deriving DecidableEq

/-- The entry of one member has the form of a single signature. -/
def toBytes (scheme : Scheme) (σ : RingSignature) : Outcome Wire := do
  let version ← scheme.versionByte
  let entries ← (σ.c.zip σ.r).mapM fun cr => Signature.entry version ⟨cr.1, cr.2⟩
  return ⟨entries, ← E.compress σ.keyImage⟩

/-- The share and the response of an entry, for the member `i`. -/
def entryOfBytes (i : Nat) (bs : Bytes) : Outcome (Int × Int) :=
  match Signature.ofBytes bs with
  | .ok σ => pure (σ.r, σ.s)
  | .error _ => throw (.entryLength i bs.length)

def ofBytes (w : Wire) : Outcome RingSignature := do
  let pairs ← w.entries.zipIdx.mapM fun x => entryOfBytes x.2 x.1
  if w.keyImage.length ≠ 33 then throw (.keyImageLength w.keyImage.length)
  return ⟨← E.decompress w.keyImage, pairs.map Prod.fst, pairs.map Prod.snd⟩

/-! ### Signing -/

/-- The commitments of the member `i` with key `Y`. The signer `s` commits to its response
alone. -/
def signerCommitment (image : Point) (s i : Nat) (Y : Point) (c r : Int) :
    Outcome (Point × Point) := do
  let rG ← E.baseMul r
  let rH ← E.mul r (← E.hashToPoint Y)
  if i = s then return (rG, rH)
  let L ← E.add rG (← E.mul c Y)
  let R ← E.add rH (← E.mul c image)
  return (L, R)

def others (s : Nat) (c : List Int) : Int := (c.eraseIdx s).sum

/-- The part of signing that follows the draws: the signer's share closes the sum, and its
response is corrected by it. -/
def close {E : Curve} (m : Message) (kp : KeyPair E) (ring : List Point) (s : Nat)
    (c r : List Int) : Outcome RingSignature := do
  let image ← kp.keyImage
  let commitments ← (ring.zip (c.zip r)).zipIdx.mapM fun x =>
    signerCommitment E image s x.2 x.1.1 x.1.2.1 x.1.2.2
  let h ← Challenge.value E m (commitments.map Prod.fst) (commitments.map Prod.snd)
  let share := (h - others s c) % E.n
  return ⟨image, c.set s share, r.modify s fun x => (x - share * kp.secret) % E.n⟩

/-- Draws `count` numbers from number `taken` on, and reduces them. With them comes how many have
been taken then. -/
def draw (draws : Nat → Int) : (count taken : Nat) → List Int × Nat
  | 0, taken => ([], taken)
  | count + 1, taken =>
    let (xs, taken') := draw draws count (taken + 1)
    (draws taken % E.n :: xs, taken')

/-- Signs as the member with the given index. All shares are drawn before all responses. -/
def sign {E : Curve} (m : Message) (kp : KeyPair E) (ring : List Point) (index : Int)
    (draws : Nat → Int) : Signing Empty RingSignature :=
  let n := ring.length
  if ¬ (0 ≤ index ∧ index < n) then ⟨throw (Decimal.worded index (.indexOutside index n)), 0, []⟩
  else if ring[index.toNat]? ≠ some kp.key then
    ⟨throw (Decimal.worded index (.notSignersKey index)), 0, []⟩
  else
    let (c, taken) := draw E draws n 0
    let (r, taken) := draw E draws n taken
    ⟨close m kp ring index.toNat c r, taken, []⟩

/-! ### Verifying -/

inductive Rejection
  | emptyRing
  | size (shares responses members : Nat)
  | component (c : Component)
  | imageOutside
  | memberOutside
  | equation
  deriving DecidableEq

/-- A failed equation is not reported. -/
def Rejection.report : Rejection → Option String
  | emptyRing => some "Ring signature rejected: empty ring"
  | size c r n => some ("Ring signature rejected: " ++ toString c ++ "/" ++ toString r ++
      " components for ring of " ++ toString n)
  | component c => some ("Ring signature rejected: " ++ c.outside)
  | imageOutside => some "Ring signature rejected: key image outside the subgroup"
  | memberOutside => some "Ring signature rejected: ring member outside the subgroup"
  | equation => none

/-- Whether all points pass the check of the subgroup, up to the first that does not. -/
def allInSubgroup : List Point → Outcome Bool
  | [] => pure true
  | P :: rest => do if ← E.inSubgroup P then allInSubgroup rest else return false

/-- The commitments of a member, recomputed from its share and response. -/
def commitment (image : Point) (Y : Point) (c r : Int) : Outcome (Point × Point) := do
  let rG ← E.baseMul r
  let L ← E.add rG (← E.mul c Y)
  let rH ← E.mul r (← E.hashToPoint Y)
  let R ← E.add rH (← E.mul c image)
  return (L, R)

def commitments (ring : List Point) (σ : RingSignature) : Outcome (List (Point × Point)) :=
  (ring.zip (σ.c.zip σ.r)).mapM fun x => commitment E σ.keyImage x.1 x.2.1 x.2.2

def verify (m : Message) (ring : List Point) (σ : RingSignature) :
    Outcome (Verdict Rejection) := do
  if ring.isEmpty then return .rejected .emptyRing
  if σ.c.length ≠ ring.length ∨ σ.r.length ≠ ring.length then
    return .rejected (.size σ.c.length σ.r.length ring.length)
  match σ.outside? E.n with
  | some c => return .rejected (.component c)
  | none =>
    if !(← E.inSubgroup σ.keyImage) then return .rejected .imageOutside
    if !(← allInSubgroup E ring) then return .rejected .memberOutside
    let pairs ← commitments E ring σ
    let h ← Challenge.value E m (pairs.map Prod.fst) (pairs.map Prod.snd)
    if (h : Int) % E.n = σ.c.sum % E.n then return .accepted else return .rejected .equation

/-- Signs with the 32 bytes of a secret scalar for a ring of 33-byte keys; the random numbers are
made scalars first. -/
def signBytes (m : Message) (secret : Bytes) (ring : List Bytes) (index : Int) (scheme : Scheme)
    (draws : Nat → Int) : Signing Empty Wire :=
  let input : Outcome (KeyPair E × List Point) := do
    let kp ← KeyPair.ofBytes E secret
    return (kp, ← ring.mapM E.publicKeyOfBytes)
  match input with
  | .error f => ⟨throw f, 0, []⟩
  | .ok (kp, members) =>
    (sign m kp members index fun i => scalar E.n (draws i)).andThen (toBytes E scheme)

/-- Verifies the byte form. The members are read first, then the signature. -/
def verifyBytes (m : Message) (ring : List Bytes) (w : Wire) : Outcome (Verdict Rejection) := do
  let members ← ring.mapM E.publicKeyOfBytes
  let σ ← ofBytes E w
  verify E m members σ

end RingSignature

end RingBallot
