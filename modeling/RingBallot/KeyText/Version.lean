/-!
The two kinds of printable key material and the byte that marks each of them.
-/

namespace RingBallot

inductive Version
  | account
  | seed
  deriving DecidableEq

namespace Version

/-- Chosen so that the text of an account starts with `G` and the text of a seed with `S`. -/
def byte : Version → UInt8
  | account => 48
  | seed => 144

def name : Version → String
  | account => "ACCOUNT_ID"
  | seed => "SEED"

def ofNumber? (v : Int) : Option Version :=
  if v = 48 then some account else if v = 144 then some seed else none

theorem byte_injective {v w : Version} (h : v.byte = w.byte) : v = w := by
  cases v <;> cases w <;> simp [byte] at h ⊢

end Version

end RingBallot
