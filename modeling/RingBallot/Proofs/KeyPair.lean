import RingBallot.KeyPair
import RingBallot.Proofs.Curve.Encoding
import RingBallot.Proofs.Curve.Subgroup
import RingBallot.Proofs.KeyText

/-!
Key pairs and the forms that they are kept in. A public key is read back from its bytes and from
its address, a secret from its bytes, and a whole pair from the text of its seed. Every reader
repeats the checks that the pair passed when it was made, so none of them refuses it.
-/

namespace RingBallot

open RingBallot.Residue RingBallot.Curve

variable {E : Curve}

namespace Curve

variable [Fact E.p.Prime] {P : Point} {bs : Bytes}

lemma publicKeyOfBytes_of_compress (hP : E.inSubgroup P = .ok true) (h : E.compress P = .ok bs) :
    E.publicKeyOfBytes bs = .ok P := by
  rw [publicKeyOfBytes, decompress_of_compress (contains_of_inSubgroup hP) h, Outcome.ok_bind, hP,
    Outcome.ok_bind, if_pos rfl, Outcome.pure_eq]

lemma publicKeyOfAddress_of_encode {text : String} (hP : E.inSubgroup P = .ok true)
    (h : E.compress P = .ok bs) (htext : KeyText.encode .account bs = .ok text) :
    E.publicKeyOfAddress text = .ok P := by
  have hlen := length_of_compress h
  rw [publicKeyOfAddress, KeyText.decode_of_encode htext (by omega), if_pos rfl, Outcome.ok_bind,
    publicKeyOfBytes_of_compress hP h]

end Curve

def keyPair19 : KeyPair curve19 where
  secret := 5
  key := .affine 13 12
  seed := none
  secret_pos := by decide
  secret_lt := by decide
  key_eq := by decide +kernel

namespace KeyPair

/-! ### In the group -/

lemma secret_zmod_ne_zero (kp : KeyPair E) : ((kp.secret : ℤ) : ZMod E.n) ≠ 0 := by
  have h0 := kp.secret_pos
  have h1 := kp.secret_lt
  exact zmod_ne_zero (by omega) (by omega)

section Prime

variable [Fact E.p.Prime]

noncomputable def element (kp : KeyPair E) : E.Element := (kp.secret : ℤ) • Element.gen E

lemma coe_element (kp : KeyPair E) : (kp.element : Point) = kp.key := by
  have h := kp.key_eq
  rw [baseMul_coe, Except.ok.injEq] at h
  exact h

noncomputable def image (kp : KeyPair E) : E.Element := (kp.secret : ℤ) • kp.element.hashed

lemma keyImage_eq (kp : KeyPair E) : kp.keyImage = .ok ↑kp.image := by
  rw [keyImage, ← coe_element, hashToPoint_coe, Outcome.ok_bind, mul_coe, image]

end Prime

/-! ### Making pairs -/

variable {kp : KeyPair E} {seed : Option String} {text : String} {bs : Bytes}

lemma eq_of_secret_eq {kp' : KeyPair E} (hsecret : kp.secret = kp'.secret)
    (hseed : kp.seed = kp'.seed) : kp = kp' := by
  obtain ⟨secret, key, seed, hpos, hlt, hkey⟩ := kp
  obtain ⟨secret', key', seed', hpos', hlt', hkey'⟩ := kp'
  simp only at hsecret hseed
  subst hsecret hseed
  rw [hkey, Except.ok.injEq] at hkey'
  subst hkey'
  rfl

/-- A pair is made from the scalars that are congruent to its secret, and from no others. -/
lemma ofScalar_eq_ok_iff {d : ℤ} :
    ofScalar E d seed = .ok kp ↔ (kp.secret : ℤ) = d % E.n ∧ kp.seed = seed := by
  have hpos := kp.secret_pos
  have hd : ((d % E.n).toNat : ℤ) = d % E.n :=
    Int.toNat_of_nonneg (Int.emod_nonneg d (by have := kp.secret_lt; omega))
  unfold ofScalar
  split_ifs with h0
  · refine iff_of_false nofun fun h => ?_
    omega
  split
  next f hf =>
    refine iff_of_false nofun fun h => ?_
    rw [hd, ← h.1, kp.key_eq] at hf
    cases hf
  next Y hY =>
    rw [Outcome.pure_eq, Except.ok.injEq]
    constructor
    · rintro rfl
      exact ⟨hd, rfl⟩
    · rintro ⟨hs, rfl⟩
      have hsecret : (d % E.n).toNat = kp.secret := by omega
      exact eq_of_secret_eq hsecret rfl

lemma length_of_ofRawSeed (h : ofRawSeed E bs = .ok kp) : bs.length = 32 := by
  by_contra hlen
  rw [ofRawSeed, if_pos hlen] at h
  cases h

lemma ofRawSeed_eq_ofScalar (hlen : bs.length = 32) : ofRawSeed E bs =
    ofScalar E bs.toNat (some (Base32.encode (Version.seed.byte :: bs))) := by
  have hmax : bs.length ≤ KeyText.maxPayload := by
    rw [hlen]
    decide
  rw [ofRawSeed, if_neg (not_not.mpr hlen), KeyText.encode_eq_ok_iff.mpr ⟨hmax, rfl⟩,
    Outcome.ok_bind]

lemma ofRawSeed_eq_ok_iff : ofRawSeed E bs = .ok kp ↔ bs.length = 32 ∧
    kp.secret = bs.toNat % E.n ∧ kp.seed = some (Base32.encode (Version.seed.byte :: bs)) := by
  have hcast : (kp.secret : ℤ) = bs.toNat % E.n ↔ kp.secret = bs.toNat % E.n := by
    rw [← Int.natCast_mod, Nat.cast_inj]
  constructor
  · intro h
    have hlen := length_of_ofRawSeed h
    rw [ofRawSeed_eq_ofScalar hlen, ofScalar_eq_ok_iff, hcast] at h
    exact ⟨hlen, h⟩
  · rintro ⟨hlen, h⟩
    rw [ofRawSeed_eq_ofScalar hlen, ofScalar_eq_ok_iff, hcast]
    exact h

/-- The text that a caller hands over with a scalar. -/
def Source.given : Source → Option String
  | .direct _ seed => seed
  | .scalar _ | .bytes _ | .rawSeed _ | .seed _ | .random _ => none

lemma exists_rawSeed {src : Source} (h : ofSource E src = .ok kp) (hgiven : src.given = none)
    (htext : kp.seed = some text) : ∃ bs, ofRawSeed E bs = .ok kp := by
  have hnone {d : ℤ} (h : ofScalar E d none = .ok kp) : False := by
    have := (ofScalar_eq_ok_iff.mp h).2
    rw [htext] at this
    cases this
  cases src with
  | scalar d => exact (hnone h).elim
  | direct d seed =>
    cases hgiven
    exact (hnone h).elim
  | bytes bs =>
    simp only [ofSource, ofBytes] at h
    split_ifs at h
    exact (hnone h).elim
  | rawSeed bs => exact ⟨bs, h⟩
  | seed text' =>
    obtain ⟨bs, -, h⟩ := Outcome.bind_eq_ok.mp h
    exact ⟨bs, h⟩
  | random bs => exact ⟨bs, h⟩

/-! ### Reading them back -/

/-- Both readers of printable key material take the text for the seed of the pair. -/
structure RestoredBy (kp : KeyPair E) (text : String) : Prop where
  ofSeed : KeyPair.ofSeed E text = .ok kp
  parse : KeyMaterial.parse E text = .ok (.pair kp)

/-- The text is that of 32 bytes which make up the secret, once they are reduced. -/
def IsSeedText (kp : KeyPair E) (text : String) : Prop :=
  ∃ bs : Bytes, bs.length = 32 ∧ kp.secret = bs.toNat % E.n ∧
    text = Base32.encode (Version.seed.byte :: bs)

lemma isSeedText_iff (htext : kp.seed = some text) :
    kp.IsSeedText text ↔ ∃ bs, ofRawSeed E bs = .ok kp := by
  simp only [IsSeedText, ofRawSeed_eq_ok_iff, htext, Option.some.injEq]

lemma restoredBy_iff (htext : kp.seed = some text) : kp.RestoredBy text ↔ kp.IsSeedText text := by
  rw [isSeedText_iff htext]
  constructor
  · intro h
    obtain ⟨bs, -, h⟩ := Outcome.bind_eq_ok.mp h.ofSeed
    exact ⟨bs, h⟩
  · rintro ⟨bs, h⟩
    obtain ⟨hlen, -, hseed⟩ := ofRawSeed_eq_ok_iff.mp h
    rw [htext, Option.some.injEq] at hseed
    have hraw : Base32.decode text = .ok (Version.seed.byte :: bs) := by
      rw [hseed, Base32.decode_encode]
    have hdec := KeyText.decode_of_raw hraw (by omega)
    have hofSeed : KeyPair.ofSeed E text = .ok kp := by
      rw [KeyPair.ofSeed, hdec, if_pos rfl, Outcome.ok_bind, h]
    have haddress : E.publicKeyOfAddress text =
        .error (.wrongVersion .account Version.seed.byte) := by
      rw [publicKeyOfAddress, hdec, if_neg nofun, Outcome.error_bind]
    refine ⟨hofSeed, ?_⟩
    rw [KeyMaterial.parse, haddress, hofSeed]
    rfl

/-- Each form of the pair is read back as what was written. The bytes of the secret say nothing of
the seed. -/
structure Survives (kp : KeyPair E) : Prop where
  keyOf : E.KeyOf kp.secret kp.key
  inSubgroup : E.inSubgroup kp.key = .ok true
  ofKeyBytes : kp.keyBytes >>= E.publicKeyOfBytes = .ok kp.key
  ofAddress : kp.address >>= E.publicKeyOfAddress = .ok kp.key
  parse : kp.address >>= KeyMaterial.parse E = .ok (.key kp.key)
  ofSecretBytes : ∀ bs, kp.secretBytes = .ok bs → ofBytes E bs = .ok { kp with seed := none }

lemma keyOf (kp : KeyPair E) : E.KeyOf kp.secret kp.key where
  range := by
    have hpos := kp.secret_pos
    have hlt := kp.secret_lt
    omega
  key := kp.key_eq

lemma ofBytes_of_secretBytes (h : kp.secretBytes = .ok bs) :
    ofBytes E bs = .ok { kp with seed := none } := by
  obtain ⟨hlen, hsecret⟩ := Bytes.ofInt_eq_ok_iff.mp h
  have hmod : (kp.secret : ℤ) = bs.toNat % E.n := by
    have hlt := kp.secret_lt
    rw [hsecret, Int.emod_eq_of_lt (by omega) (by omega)]
  have hlen : bs.length = 32 := hlen
  rw [ofBytes, if_neg (not_not.mpr hlen)]
  exact ofScalar_eq_ok_iff.mpr ⟨hmod, rfl⟩

lemma survives (hE : E.PrimeOrder) (h256 : E.p ≤ 2 ^ 256) (kp : KeyPair E) : kp.Survives := by
  have := Fact.mk hE.p_prime
  have hkey := kp.keyOf.inSubgroup hE
  have hcontains := contains_of_inSubgroup hkey
  obtain ⟨bs, hbs⟩ := compress_total h256 hcontains
  have hshort : bs.length ≤ KeyText.maxPayload := by
    rw [length_of_compress hbs]
    decide
  obtain ⟨text, htext⟩ := KeyText.encode_total .account hshort
  have haddress : kp.address = .ok text := by
    rw [address, keyBytes, hbs, Outcome.ok_bind, htext]
  have hback := publicKeyOfAddress_of_encode hkey hbs htext
  refine ⟨kp.keyOf, hkey, ?_, ?_, ?_, fun bs h => ofBytes_of_secretBytes h⟩
  · rw [keyBytes, hbs, Outcome.ok_bind, publicKeyOfBytes_of_compress hkey hbs]
  · rw [haddress, Outcome.ok_bind, hback]
  · rw [haddress, Outcome.ok_bind, KeyMaterial.parse, hback]
    rfl

/-- **Key material survives every form that it is kept in.** Each form of a pair is read back as
what was written. The text that is kept with a pair restores it exactly if it is the text of a seed
of the pair. Whatever a pair is made from, its text is one, unless the caller handed it over. -/
theorem serialisation_restores (hE : E.PrimeOrder) (h256 : E.p ≤ 2 ^ 256) :
    (∀ kp : KeyPair E, kp.Survives) ∧
      ∀ (kp : KeyPair E) (text : String), kp.seed = some text →
        (kp.RestoredBy text ↔ kp.IsSeedText text) ∧
          ∀ src, ofSource E src = .ok kp → src.given = none → kp.RestoredBy text := by
  refine ⟨survives hE h256, fun kp text htext => ⟨restoredBy_iff htext, fun src h hgiven => ?_⟩⟩
  exact (restoredBy_iff htext).mpr ((isSeedText_iff htext).mpr (exists_rawSeed h hgiven htext))

/-- The text of the seed 26, which exceeds the order 7 of the curve and is congruent to 5. -/
def seedText19 : String := "SAAAAAAAAAAAAAAAAAAAAAAAAAAAAAAAAAAAAAAAAAAAAAAAAAABU==="

/-- The pair of that seed, and the same pair from the bytes of its secret. -/
theorem serialisation_restores_curve19 :
    curve19.PrimeOrder ∧ curve19.p ≤ 2 ^ 256 ∧
      ofSource curve19 (.rawSeed (Bytes.ofNat 32 26)) =
        .ok { keyPair19 with seed := some seedText19 } ∧
      RestoredBy { keyPair19 with seed := some seedText19 } seedText19 ∧
      Survives { keyPair19 with seed := some seedText19 } ∧
      keyPair19.secretBytes = .ok (Bytes.ofNat 32 5) ∧
      ofBytes curve19 (Bytes.ofNat 32 5) = .ok keyPair19 := by
  have hE := curve19_primeOrder
  have h256 : curve19.p ≤ 2 ^ 256 := by decide
  have hsrc : ofSource curve19 (.rawSeed (Bytes.ofNat 32 26)) =
      .ok { keyPair19 with seed := some seedText19 } := by decide +kernel
  obtain ⟨hforms, hseed⟩ := serialisation_restores hE h256
  have hsecret : keyPair19.secretBytes = .ok (Bytes.ofNat 32 5) := by decide +kernel
  exact ⟨hE, h256, hsrc, (hseed _ _ rfl).2 _ hsrc rfl, hforms _, hsecret,
    (hforms keyPair19).ofSecretBytes _ hsecret⟩

/-- The text of the seed 4. -/
def otherText19 : String := "SAAAAAAAAAAAAAAAAAAAAAAAAAAAAAAAAAAAAAAAAAAAAAAAAAAAI==="

/-- A pair made directly keeps whatever text it is given. One such text restores nothing, another
the pair of a different secret. -/
theorem text_given_not_restoring :
    curve19.PrimeOrder ∧ curve19.p ≤ 2 ^ 256 ∧
      (ofSource curve19 (.direct 5 (some "junk")) = .ok { keyPair19 with seed := some "junk" } ∧
        (ofSeed curve19 "junk").Fails .invalidValue) ∧
      ofSource curve19 (.direct 5 (some otherText19)) =
        .ok { keyPair19 with seed := some otherText19 } ∧
      (ofSeed curve19 otherText19).map KeyPair.secret = .ok 4 ∧
      ¬ RestoredBy { keyPair19 with seed := some otherText19 } otherText19 := by
  have hjunk : ofSeed curve19 "junk" = .error .textPadding := by decide +kernel
  have hother : (ofSeed curve19 otherText19).map KeyPair.secret = .ok 4 := by decide +kernel
  refine ⟨curve19_primeOrder, by decide, ⟨by decide +kernel, .textPadding, hjunk, rfl⟩,
    by decide +kernel, hother, fun h => ?_⟩
  rw [h.ofSeed] at hother
  cases hother

end KeyPair

end RingBallot
