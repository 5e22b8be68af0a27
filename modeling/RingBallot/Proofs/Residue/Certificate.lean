import Mathlib.Data.List.Prime
import Mathlib.NumberTheory.LucasPrimality
import RingBallot.Proofs.Residue.Sqrt

/-!
Certificates of large primes. A number is prime if some base has full order modulo it, which a few
powers show once the prime factors of its predecessor are known; these are certified before it.
-/

namespace RingBallot.Residue

/-- A number with a base of full order, and the prime factors of its predecessor, repeated ones as
often as they divide it. -/
structure Certificate where
  number : ℕ
  base : ℕ
  factors : List ℕ

namespace Certificate

/-- The powers of the base come back to 1 after `number - 1` steps and not before, if the factors,
all of them among `known`, are prime. -/
def Holds (known : List ℕ) (c : Certificate) : Prop :=
  1 < c.number ∧ (∀ q ∈ c.factors, q ∈ known) ∧ c.factors.prod = c.number - 1 ∧
    power c.base (c.number - 1) c.number = 1 ∧
    ∀ q ∈ c.factors, power c.base ((c.number - 1) / q) c.number ≠ 1

instance (known : List ℕ) (c : Certificate) : Decidable (c.Holds known) :=
  inferInstanceAs (Decidable (_ ∧ _))

/-- Each certificate rests on the known primes and on the numbers certified before it. -/
def Chain (known : List ℕ) : List Certificate → Prop
  | [] => True
  | c :: rest => c.Holds known ∧ Chain (c.number :: known) rest

instance decidableChain : (known : List ℕ) → (l : List Certificate) → Decidable (Chain known l)
  | _, [] => .isTrue trivial
  | known, c :: rest =>
    have := decidableChain (c.number :: known) rest
    inferInstanceAs (Decidable (c.Holds known ∧ Chain (c.number :: known) rest))

variable {known : List ℕ}

lemma Holds.prime {c : Certificate} (h : c.Holds known) (hknown : ∀ q ∈ known, q.Prime) :
    c.number.Prime := by
  obtain ⟨h1, hmem, hprod, hone, hne⟩ := h
  have : NeZero c.number := ⟨by omega⟩
  have hpower (e : ℕ) : (c.base : ZMod c.number) ^ e = 1 ↔ power c.base e c.number = 1 := by
    rw [← zmod_power, eq_one_iff h1 (power_lt _ _)]
  refine lucas_primality c.number c.base ((hpower _).mpr hone) fun q hq hdvd => ?_
  have hq' : q ∈ c.factors :=
    mem_list_primes_of_dvd_prod hq.prime (fun r hr => (hknown r (hmem r hr)).prime) (hprod ▸ hdvd)
  rw [ne_eq, hpower]
  exact hne q hq'

/-- **Every number of a chain is prime.** -/
theorem Chain.prime {l : List Certificate} (h : Chain known l) (hknown : ∀ q ∈ known, q.Prime) :
    ∀ q ∈ l.map number, q.Prime := by
  induction l generalizing known with
  | nil => simp
  | cons c rest ih =>
    have hc := h.1.prime hknown
    have hrest := ih h.2 (List.forall_mem_cons.mpr ⟨hc, hknown⟩)
    exact List.forall_mem_cons.mpr ⟨hc, hrest⟩

end Certificate

end RingBallot.Residue
