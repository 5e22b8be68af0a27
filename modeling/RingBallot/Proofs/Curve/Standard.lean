import Mathlib.Tactic.NormNum.Prime
import RingBallot.Curve.Standard
import RingBallot.Proofs.Curve.Order
import RingBallot.Proofs.Residue.Certificate

/-!
The standard curve: its modulus and its order are prime, and the order kills the generator.
-/

namespace RingBallot.Curve

open RingBallot.Residue

/-- The primes below a million that the certificates rest on. -/
def smallPrimes : List ℕ :=
  [2, 3, 5, 7, 11, 13, 19, 23, 31, 41, 43, 47, 73, 103, 107, 127, 223, 269, 307, 353, 991, 1361,
   2437, 2551, 2851, 3727, 4153, 5879, 30703, 57467, 65147, 75707, 82163, 132049, 132667, 137849,
   409477, 430751, 531581, 569003]

lemma smallPrimes_prime : ∀ q ∈ smallPrimes, q.Prime := by
  simp only [smallPrimes, List.forall_mem_cons]
  norm_num

/-- What certifies the modulus, and after it what certifies the order. -/
def certificates25519 : List Certificate :=
  [⟨1923133, 2, [2, 2, 3, 43, 3727]⟩,
   ⟨31757755568855353, 10, [2, 2, 2, 3, 31, 107, 223, 4153, 430751]⟩,
   ⟨2773320623, 5, [2, 2437, 569003]⟩,
   ⟨72106336199, 7, [2, 13, 2773320623]⟩,
   ⟨8574133, 2, [2, 2, 3, 7, 103, 991]⟩,
   ⟨1919519569386763, 2, [2, 3, 7, 19, 47, 47, 127, 8574133]⟩,
   ⟨75445702479781427272750846543864801, 7, [2, 2, 2, 2, 2, 3, 3, 5, 5, 75707, 72106336199,
     1919519569386763]⟩,
   ⟨74058212732561358302231226437062788676166966415465897661863160754340907, 2, [2, 3, 353, 57467,
     132049, 1923133, 31757755568855353, 75445702479781427272750846543864801]⟩,
   ⟨curve25519.p, 2, [2, 2, 3, 65147,
     74058212732561358302231226437062788676166966415465897661863160754340907]⟩,
   ⟨14741173, 2, [2, 2, 3, 3, 409477]⟩,
   ⟨58964693, 2, [2, 2, 14741173]⟩,
   ⟨3044861653679985063343, 5, [2, 3, 11, 30703, 82163, 132667, 137849]⟩,
   ⟨198211423230930754013084525763697, 5, [2, 2, 2, 2, 3, 23, 58964693, 3044861653679985063343]⟩,
   ⟨292386187, 2, [2, 3, 3, 3, 3, 307, 5879]⟩,
   ⟨213441916511, 13, [2, 5, 73, 292386187]⟩,
   ⟨1224481, 13, [2, 2, 2, 2, 2, 3, 5, 2551]⟩,
   ⟨1257559732178653, 2, [2, 2, 3, 7, 23, 531581, 1224481]⟩,
   ⟨4434155615661930479, 17, [2, 41, 43, 1257559732178653]⟩,
   ⟨172054593956031949258510691, 2, [2, 5, 1361, 2851, 4434155615661930479]⟩,
   ⟨19757330305831588566944191468367130476339, 2, [2, 269, 213441916511,
     172054593956031949258510691]⟩,
   ⟨276602624281642239937218680557139826668747, 2, [2, 7,
     19757330305831588566944191468367130476339]⟩,
   ⟨curve25519.n, 2, [2, 2, 3, 11, 198211423230930754013084525763697,
     276602624281642239937218680557139826668747]⟩]

lemma certificates25519_chain : Certificate.Chain smallPrimes certificates25519 := by
  decide +kernel

lemma curve25519_primeOrder : curve25519.PrimeOrder where
  p_prime := certificates25519_chain.prime smallPrimes_prime _ (by simp [certificates25519])
  n_prime := certificates25519_chain.prime smallPrimes_prime _ (by simp [certificates25519])
  -- by evaluation: one inverse of 255 bits for each of some 380 sums
  order := by decide +kernel

lemma curve25519_largeOrder : curve25519.LargeOrder where
  toPrimeOrder := curve25519_primeOrder
  large := by norm_num [curve25519]

end RingBallot.Curve
