import RingBallot.Bytes
import RingBallot.Grouping

/-!
SHA-256. A message is padded to blocks of 64 bytes, and each block stirs eight words through 64
rounds.
-/

namespace RingBallot.Digest

structure State where
  a : UInt32
  b : UInt32
  c : UInt32
  d : UInt32
  e : UInt32
  f : UInt32
  g : UInt32
  h : UInt32

def State.words (s : State) : List UInt32 := [s.a, s.b, s.c, s.d, s.e, s.f, s.g, s.h]

def State.plus (s t : State) : State :=
  ⟨s.a + t.a, s.b + t.b, s.c + t.c, s.d + t.d, s.e + t.e, s.f + t.f, s.g + t.g, s.h + t.h⟩

def rotate (w k : UInt32) : UInt32 := (w >>> k) ||| (w <<< (32 - k))

/-- The fractional parts of the square roots of the first eight primes. -/
def initial : State :=
  ⟨0x6a09e667, 0xbb67ae85, 0x3c6ef372, 0xa54ff53a, 0x510e527f, 0x9b05688c, 0x1f83d9ab, 0x5be0cd19⟩

/-- The fractional parts of the cube roots of the first 64 primes. -/
def constants : List UInt32 :=
  [0x428a2f98, 0x71374491, 0xb5c0fbcf, 0xe9b5dba5, 0x3956c25b, 0x59f111f1, 0x923f82a4, 0xab1c5ed5,
   0xd807aa98, 0x12835b01, 0x243185be, 0x550c7dc3, 0x72be5d74, 0x80deb1fe, 0x9bdc06a7, 0xc19bf174,
   0xe49b69c1, 0xefbe4786, 0x0fc19dc6, 0x240ca1cc, 0x2de92c6f, 0x4a7484aa, 0x5cb0a9dc, 0x76f988da,
   0x983e5152, 0xa831c66d, 0xb00327c8, 0xbf597fc7, 0xc6e00bf3, 0xd5a79147, 0x06ca6351, 0x14292967,
   0x27b70a85, 0x2e1b2138, 0x4d2c6dfc, 0x53380d13, 0x650a7354, 0x766a0abb, 0x81c2c92e, 0x92722c85,
   0xa2bfe8a1, 0xa81a664b, 0xc24b8b70, 0xc76c51a3, 0xd192e819, 0xd6990624, 0xf40e3585, 0x106aa070,
   0x19a4c116, 0x1e376c08, 0x2748774c, 0x34b0bcb5, 0x391c0cb3, 0x4ed8aa4a, 0x5b9cca4f, 0x682e6ff3,
   0x748f82ee, 0x78a5636f, 0x84c87814, 0x8cc70208, 0x90befffa, 0xa4506ceb, 0xbef9a3f7, 0xc67178f2]

def nextWord (ws : List UInt32) : UInt32 :=
  let x := ws.getD 1 0
  let y := ws.getD 14 0
  let s₁ := rotate x 17 ^^^ rotate x 19 ^^^ (x >>> 10)
  let s₀ := rotate y 7 ^^^ rotate y 18 ^^^ (y >>> 3)
  s₁ + ws.getD 6 0 + s₀ + ws.getD 15 0

def extend : Nat → List UInt32 → List UInt32
  | 0, ws => ws
  | k + 1, ws => extend k (nextWord ws :: ws)

def schedule (block : Bytes) : List UInt32 :=
  (extend 48 ((groupsOf 4 block).map fun g => UInt32.ofNat (Bytes.toNat g)).reverse).reverse

def round (s : State) (kw : UInt32 × UInt32) : State :=
  let s₁ := rotate s.e 6 ^^^ rotate s.e 11 ^^^ rotate s.e 25
  let ch := (s.e &&& s.f) ^^^ (~~~s.e &&& s.g)
  let t₁ := s.h + s₁ + ch + kw.1 + kw.2
  let s₀ := rotate s.a 2 ^^^ rotate s.a 13 ^^^ rotate s.a 22
  let maj := (s.a &&& s.b) ^^^ (s.a &&& s.c) ^^^ (s.b &&& s.c)
  ⟨t₁ + (s₀ + maj), s.a, s.b, s.c, s.d + t₁, s.e, s.f, s.g⟩

def mix (s : State) (block : Bytes) : State :=
  s.plus ((constants.zip (schedule block)).foldl round s)

/-- The message, a single bit, zeros, and the length in bits, to a whole number of blocks. -/
def pad (bs : Bytes) : Bytes :=
  bs ++ 128 :: Bytes.zeros ((119 - bs.length % 64) % 64) ++ Bytes.ofNat 8 (8 * bs.length)

def sha256 (bs : Bytes) : Bytes :=
  ((groupsOf 64 (pad bs)).foldl mix initial).words.flatMap fun w => Bytes.ofNat 4 w.toNat

@[simp] theorem length_sha256 (bs : Bytes) : (sha256 bs).length = 32 := by
  simp [sha256, State.words]

end RingBallot.Digest
