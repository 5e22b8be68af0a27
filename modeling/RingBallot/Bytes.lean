import RingBallot.Failure

/-!
Byte strings, the most significant byte first when they stand for a number. At a fixed width
every number that fits has one form, and reading undoes writing.
-/

namespace RingBallot

abbrev Bytes := List UInt8

namespace Bytes

open scoped CorePower

def zeros (width : Nat) : Bytes := List.replicate width 0

def toNat (bs : Bytes) : Nat := bs.foldl (fun n b => 256 * n + b.toNat) 0

/-- The last `width` base 256 digits of a number. -/
def ofNat : Nat → Nat → Bytes
  | 0, _ => []
  | width + 1, n => ofNat width (n / 256) ++ [UInt8.ofNat n]

/-- A number at a fixed width, which it has to fit. -/
def ofInt (width : Nat) (v : Int) : Outcome Bytes :=
  if v < 0 then throw .negativeNumber
  else if v.toNat < 256 ^ width then pure (ofNat width v.toNat)
  else throw .numberTooBig

theorem ofInt_of_lt {width n : Nat} (h : n < 256 ^ width) :
    ofInt width n = .ok (ofNat width n) := by
  have h0 : ¬ (n : Int) < 0 := by omega
  simp only [ofInt, if_neg h0, Int.toNat_natCast, if_pos h]
  rfl

theorem ofInt_of_le {width n : Nat} (h : 256 ^ width ≤ n) :
    ofInt width n = .error .numberTooBig := by
  have h0 : ¬ (n : Int) < 0 := by omega
  simp only [ofInt, if_neg h0, Int.toNat_natCast, if_neg (Nat.not_lt.2 h)]
  rfl

@[simp] theorem toNat_nil : toNat [] = 0 := rfl

theorem toNat_concat (bs : Bytes) (b : UInt8) :
    toNat (bs ++ [b]) = 256 * toNat bs + b.toNat := by
  simp [toNat, List.foldl_append]

theorem toNat_lt (bs : Bytes) : toNat bs < 256 ^ bs.length := by
  induction h : bs.reverse generalizing bs with
  | nil => simp [List.reverse_eq_nil_iff.1 h]
  | cons b t ih =>
    have hbs : bs = t.reverse ++ [b] := by simpa using congrArg List.reverse h
    have hb : b.toNat < 256 := b.toNat_lt
    have := ih t.reverse (by simp)
    simp only [List.length_reverse] at this
    rw [hbs, toNat_concat, List.length_append, List.length_singleton, List.length_reverse,
      Nat.pow_succ]
    omega

@[simp] theorem length_ofNat (width n : Nat) : (ofNat width n).length = width := by
  induction width generalizing n with
  | zero => rfl
  | succ w ih => simp [ofNat, ih]

theorem toNat_ofNat (width n : Nat) : toNat (ofNat width n) = n % 256 ^ width := by
  induction width generalizing n with
  | zero => simp [ofNat, Nat.mod_one]
  | succ w ih =>
    rw [ofNat, toNat_concat, ih, Nat.pow_succ, Nat.mul_comm (256 ^ w), Nat.mod_mul]
    have : (UInt8.ofNat n).toNat = n % 256 := by simp
    omega

theorem ofNat_toNat (bs : Bytes) : ofNat bs.length (toNat bs) = bs := by
  induction h : bs.reverse generalizing bs with
  | nil => simp [List.reverse_eq_nil_iff.1 h, ofNat]
  | cons b t ih =>
    have hbs : bs = t.reverse ++ [b] := by simpa using congrArg List.reverse h
    have hb : b.toNat < 256 := b.toNat_lt
    have hd : (256 * toNat t.reverse + b.toNat) / 256 = toNat t.reverse := by omega
    have hl : UInt8.ofNat (256 * toNat t.reverse + b.toNat) = b := by
      apply UInt8.toNat_inj.1
      simp only [UInt8.toNat_ofNat']
      omega
    rw [hbs, List.length_append, List.length_singleton, ofNat, toNat_concat, hd, hl,
      ih t.reverse (by simp)]

theorem ofInt_eq_ok_iff {width : Nat} {v : Int} {bs : Bytes} :
    ofInt width v = .ok bs ↔ bs.length = width ∧ (toNat bs : Int) = v := by
  constructor
  · intro h
    unfold ofInt at h
    split at h
    · cases h
    · split at h
      next hlt =>
        cases h
        rw [length_ofNat, toNat_ofNat, Nat.mod_eq_of_lt hlt]
        omega
      next => cases h
  · rintro ⟨rfl, rfl⟩
    rw [ofInt_of_lt (toNat_lt bs), ofNat_toNat]

end Bytes

end RingBallot
