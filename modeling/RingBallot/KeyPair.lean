import RingBallot.Curve.Encoding
import RingBallot.KeyText

/-!
Key pairs: a secret scalar and the multiple of the generator by it. The public point is part of
the type's promise, so neither half can be set alone. Public keys read from bytes or text are
finite points of the prime-order subgroup.
-/

namespace RingBallot

structure KeyPair (E : Curve) where
  secret : Nat
  key : Point
  /-- The text of the seed that the pair was made from, or a text given in its place. -/
  seed : Option String
  secret_pos : 0 < secret
  secret_lt : secret < E.n
  key_eq : E.baseMul secret = .ok key
  deriving DecidableEq

namespace KeyPair

variable {E : Curve}

/-- The pair of a scalar, which is reduced modulo the group order first. -/
def ofScalar (E : Curve) (d : Int) (seed : Option String) : Outcome (KeyPair E) :=
  have hn : (0 : Int) < E.n := by have := E.valid.2.1; omega
  if h0 : (d % E.n).toNat = 0 then throw .zeroSecret
  else
    match h : E.baseMul (d % E.n).toNat with
    | .error f => throw f
    | .ok Y =>
      pure {
        secret := (d % E.n).toNat
        key := Y
        seed
        secret_pos := Nat.pos_of_ne_zero h0
        secret_lt := by have := Int.emod_lt_of_pos d hn; omega
        key_eq := h }

inductive Source
  | scalar (d : Int)
  /-- A scalar, and whatever text is to be kept with the pair. -/
  | direct (d : Int) (seed : Option String)
  /-- The 32 bytes of a secret scalar. -/
  | bytes (bs : Bytes)
  /-- 32 bytes whose text is kept with the pair. -/
  | rawSeed (bs : Bytes)
  /-- The text of a seed. -/
  | seed (text : String)
  /-- Bytes from a source of randomness, which serve as a seed. -/
  | random (bs : Bytes)

def ofRawSeed (E : Curve) (bs : Bytes) : Outcome (KeyPair E) := do
  if bs.length ≠ 32 then throw (.seedLength bs.length)
  let text ← KeyText.encode .seed bs
  ofScalar E bs.toNat text

def ofSeed (E : Curve) (text : String) : Outcome (KeyPair E) := do
  ofRawSeed E (← KeyText.decode .seed text)

def ofBytes (E : Curve) (bs : Bytes) : Outcome (KeyPair E) :=
  if bs.length ≠ 32 then throw (.secretLength bs.length)
  else ofScalar E bs.toNat none

def ofSource (E : Curve) : Source → Outcome (KeyPair E)
  | .scalar d => ofScalar E d none
  | .direct d seed => ofScalar E d seed
  | .bytes bs => ofBytes E bs
  | .rawSeed bs | .random bs => ofRawSeed E bs
  | .seed text => ofSeed E text

def secretBytes (kp : KeyPair E) : Outcome Bytes := Bytes.ofInt Curve.width kp.secret

def keyBytes (kp : KeyPair E) : Outcome Bytes := E.compress kp.key

def address (kp : KeyPair E) : Outcome String := do
  KeyText.encode .account (← kp.keyBytes)

/-- The last four bytes of the public key. -/
def hint (kp : KeyPair E) : Outcome Bytes := do
  let bs ← kp.keyBytes
  return bs.drop (bs.length - 4)

/-- The secret multiple of the second generator of the public key, the same in every ring
signature that the pair makes. -/
def keyImage (kp : KeyPair E) : Outcome Point := do
  E.mul kp.secret (← E.hashToPoint kp.key)

end KeyPair

namespace Curve

variable (E : Curve)

def publicKeyOfBytes (bs : Bytes) : Outcome Point := do
  let P ← E.decompress bs
  if ← E.inSubgroup P then return P else throw .notPublicKey

def publicKeyOfAddress (text : String) : Outcome Point := do
  E.publicKeyOfBytes (← KeyText.decode .account text)

end Curve

inductive KeyMaterial (E : Curve)
  | key (P : Point)
  | pair (kp : KeyPair E)

/-- Reads an address or a seed. A text of another version than that of addresses is taken for a
seed. -/
def KeyMaterial.parse (E : Curve) (text : String) : Outcome (KeyMaterial E) :=
  match E.publicKeyOfAddress text with
  | .ok P => pure (.key P)
  | .error f =>
    if f.kind = .invalidVersion then (KeyPair.ofSeed E text).map .pair else throw f

end RingBallot
