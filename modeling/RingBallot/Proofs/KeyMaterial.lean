import RingBallot.Proofs.KeyPair

/-!
What a text is taken for. The byte in front of the payload decides alone: an account is read as a
public key, a seed as a key pair, and any other version is reported. The reader of accounts fails
in the way that makes the other one be tried only where the version is another one, so no text is
given to the wrong reader.
-/

namespace RingBallot

open RingBallot.Residue RingBallot.Curve

variable {E : Curve} {P : Point} {bs : Bytes} {f : Failure}

/-! ### The two readers -/

namespace Curve

variable [Fact E.p.Prime]

lemma publicKeyOfBytes_eq_ok_iff :
    E.publicKeyOfBytes bs = .ok P ↔ E.inSubgroup P = .ok true ∧ E.compress P = .ok bs := by
  constructor
  · intro h
    obtain ⟨Q, hQ, h⟩ := Outcome.bind_eq_ok.mp h
    obtain ⟨b, hb, h⟩ := Outcome.bind_eq_ok.mp h
    split_ifs at h with hin
    cases h
    rw [hin] at hb
    exact ⟨hb, (compress_of_decompress hQ).2⟩
  · rintro ⟨hP, h⟩
    exact publicKeyOfBytes_of_compress hP h

lemma publicKeyOfBytes_error (h : E.publicKeyOfBytes bs = .error f) :
    f.kind = .invalidEncoding := by
  rcases Outcome.bind_eq_error.mp h with h | ⟨Q, -, h⟩
  · exact decompress_error h
  obtain ⟨b, hb⟩ := inSubgroup_total (E := E) Q
  rw [hb, Outcome.ok_bind] at h
  split_ifs at h
  · cases h
  · cases h
    rfl

end Curve

namespace KeyPair

variable {kp : KeyPair E}

variable [Fact E.p.Prime]

lemma ofScalar_total {d : ℤ} {seed : Option String} (h : d % E.n ≠ 0) :
    ∃ kp : KeyPair E, ofScalar E d seed = .ok kp := by
  have hn := E.valid.2.1
  have hnonneg := Int.emod_nonneg d (show (E.n : ℤ) ≠ 0 by omega)
  unfold ofScalar
  rw [dif_neg (by omega)]
  split
  · rename_i hf
    rw [baseMul_coe] at hf
    cases hf
  · exact ⟨_, rfl⟩

lemma ofScalar_error {d : ℤ} {seed : Option String} (h : ofScalar E d seed = .error f) :
    f = .zeroSecret := by
  unfold ofScalar at h
  split_ifs at h
  · cases h
    rfl
  split at h
  · rename_i hf
    rw [baseMul_coe] at hf
    cases hf
  · cases h

lemma ofRawSeed_error (h : ofRawSeed E bs = .error f) : f.kind = .invalidValue := by
  by_cases hlen : bs.length = 32
  · rw [ofRawSeed_eq_ofScalar hlen] at h
    rw [ofScalar_error h]
    rfl
  · rw [ofRawSeed, if_pos hlen] at h
    cases h
    rfl

end KeyPair

namespace KeyMaterial

variable {text : String}

/-! ### Kinds of text -/

/-- The text carries an account: the bytes of a public key. -/
structure IsAddress (E : Curve) (text : String) (Q : Point) : Prop where
  inSubgroup : E.inSubgroup Q = .ok true
  raw : ∃ bs, E.compress Q = .ok bs ∧ Base32.decode text = .ok (Version.account.byte :: bs)

/-- The text carries a seed: the bytes of a number that is a secret once it is reduced. -/
structure IsSeed (E : Curve) (text : String) (bs : Bytes) : Prop where
  raw : Base32.decode text = .ok (Version.seed.byte :: bs)
  length : bs.length = 32
  nonzero : bs.toNat % E.n ≠ 0

/-- The text carries three bytes at least, and the first one marks no version. -/
def IsForeign (text : String) : Prop :=
  ∃ (b : UInt8) (payload : Bytes), Base32.decode text = .ok (b :: payload) ∧ 2 ≤ payload.length ∧
    ∀ v : Version, b ≠ v.byte

/-- There is nothing in a text but one of the two versions, a foreign one, or too few bytes. -/
lemma text_cases (text : String) :
    (∃ (v : Version) (bs : Bytes), Base32.decode text = .ok (v.byte :: bs) ∧ 2 ≤ bs.length) ∨
      IsForeign text ∨ ∀ raw, Base32.decode text = .ok raw → raw.length < 3 := by
  by_cases hread : ∃ raw, Base32.decode text = .ok raw ∧ 3 ≤ raw.length
  · obtain ⟨_ | ⟨b, bs⟩, hraw, hlen⟩ := hread
    · cases hlen
    replace hlen : 2 ≤ bs.length := by simpa using hlen
    by_cases hv : ∃ v : Version, b = v.byte
    · obtain ⟨v, rfl⟩ := hv
      exact .inl ⟨v, bs, hraw, hlen⟩
    · exact .inr (.inl ⟨b, bs, hraw, hlen, not_exists.mp hv⟩)
  · push Not at hread
    exact .inr (.inr hread)

/-! ### What each kind is read as -/

lemma parse_of_other {b : UInt8} (h : Base32.decode text = .ok (b :: bs)) (hlen : 2 ≤ bs.length)
    (hb : b ≠ Version.account.byte) : parse E text = (KeyPair.ofSeed E text).map .pair := by
  have hkey : E.publicKeyOfAddress text = .error (.wrongVersion .account b) := by
    rw [publicKeyOfAddress, KeyText.decode_of_other h hlen hb, Outcome.error_bind]
  rw [parse, hkey]
  rfl

lemma parse_of_seed (h : Base32.decode text = .ok (Version.seed.byte :: bs))
    (hlen : 2 ≤ bs.length) : parse E text = (KeyPair.ofRawSeed E bs).map .pair := by
  rw [parse_of_other h hlen (by decide), KeyPair.ofSeed, KeyText.decode_of_raw h hlen, if_pos rfl,
    Outcome.ok_bind]

lemma parse_of_foreign (h : IsForeign text) : (parse E text).Fails .invalidVersion := by
  obtain ⟨b, bs, hraw, hlen, hb⟩ := h
  refine ⟨.wrongVersion .seed b, ?_, rfl⟩
  rw [parse_of_other hraw hlen (hb .account), KeyPair.ofSeed,
    KeyText.decode_of_other hraw hlen (hb .seed), Outcome.error_bind]
  rfl

lemma parse_of_error (h : E.publicKeyOfAddress text = .error f) (hf : f.kind ≠ .invalidVersion) :
    parse E text = .error f := by
  rw [parse, h]
  exact if_neg hf

lemma parse_of_unread (h : ∀ raw, Base32.decode text = .ok raw → raw.length < 3) :
    (parse E text).Fails .invalidValue := by
  obtain ⟨f, hf, hkind⟩ := KeyText.decode_of_unread h .account
  refine ⟨f, parse_of_error ?_ ?_, hkind⟩
  · rw [publicKeyOfAddress, hf, Outcome.error_bind]
  · rw [hkind]
    decide

variable [Fact E.p.Prime]

lemma parse_of_account (h : Base32.decode text = .ok (Version.account.byte :: bs))
    (hlen : 2 ≤ bs.length) : parse E text = (E.publicKeyOfBytes bs).map .key := by
  have hkey : E.publicKeyOfAddress text = E.publicKeyOfBytes bs := by
    rw [publicKeyOfAddress, KeyText.decode_of_raw h hlen, if_pos rfl, Outcome.ok_bind]
  rcases hbs : E.publicKeyOfBytes bs with f | Q
  · refine parse_of_error (hkey.trans hbs) ?_
    rw [publicKeyOfBytes_error hbs]
    decide
  · rw [parse, hkey, hbs]
    rfl

/-- What is read was carried: a key by an account, a pair by a seed. -/
lemma parse_ok {x : KeyMaterial E} (h : parse E text = .ok x) :
    (∃ Q, x = .key Q ∧ IsAddress E text Q) ∨
      ∃ kp bs, x = .pair kp ∧ IsSeed E text bs ∧ KeyPair.ofRawSeed E bs = .ok kp := by
  obtain ⟨v, bs, hraw, hlen⟩ | hforeign | hunread := text_cases text
  · cases v with
    | account =>
      rw [parse_of_account hraw hlen, Outcome.map_eq_ok] at h
      obtain ⟨Q, hbs, rfl⟩ := h
      obtain ⟨hin, hcomp⟩ := publicKeyOfBytes_eq_ok_iff.mp hbs
      exact .inl ⟨Q, rfl, hin, bs, hcomp, hraw⟩
    | seed =>
      rw [parse_of_seed hraw hlen, Outcome.map_eq_ok] at h
      obtain ⟨kp, hbs, rfl⟩ := h
      obtain ⟨hlen, hsecret, -⟩ := KeyPair.ofRawSeed_eq_ok_iff.mp hbs
      exact .inr ⟨kp, bs, rfl, ⟨hraw, hlen, hsecret ▸ kp.secret_pos.ne'⟩, hbs⟩
  · exact absurd (h ▸ parse_of_foreign hforeign) (Outcome.not_fails_ok _ _)
  · exact absurd (h ▸ parse_of_unread hunread) (Outcome.not_fails_ok _ _)

lemma parse_eq_key_iff {Q : Point} : parse E text = .ok (.key Q) ↔ IsAddress E text Q := by
  constructor
  · intro h
    obtain ⟨Q', hQ, haddress⟩ | ⟨kp, bs, hkp, -⟩ := parse_ok h
    · cases hQ
      exact haddress
    · cases hkp
  · rintro ⟨hin, bs, hcomp, hraw⟩
    have hlen := length_of_compress hcomp
    rw [parse_of_account hraw (by omega), publicKeyOfBytes_eq_ok_iff.mpr ⟨hin, hcomp⟩]
    rfl

lemma parse_eq_pair_iff {kp : KeyPair E} : parse E text = .ok (.pair kp) ↔
    ∃ bs, IsSeed E text bs ∧ kp.secret = bs.toNat % E.n ∧
      kp.seed = some (Base32.encode (Version.seed.byte :: bs)) := by
  constructor
  · intro h
    obtain ⟨Q, hQ, -⟩ | ⟨kp', bs, hkp, hseed, hbs⟩ := parse_ok h
    · cases hQ
    · cases hkp
      exact ⟨bs, hseed, (KeyPair.ofRawSeed_eq_ok_iff.mp hbs).2⟩
  · rintro ⟨bs, h, hkp⟩
    have hlen := h.length
    rw [parse_of_seed h.raw (by omega), KeyPair.ofRawSeed_eq_ok_iff.mpr ⟨hlen, hkp⟩]
    rfl

lemma exists_pair_iff :
    (∃ kp, parse E text = .ok (.pair kp)) ↔ ∃ bs, IsSeed E text bs := by
  constructor
  · rintro ⟨kp, h⟩
    obtain ⟨bs, hbs, -⟩ := parse_eq_pair_iff.mp h
    exact ⟨bs, hbs⟩
  · rintro ⟨bs, h⟩
    have hlen := h.length
    have hnonzero : (bs.toNat : ℤ) % E.n ≠ 0 := by exact_mod_cast h.nonzero
    obtain ⟨kp, hkp⟩ := KeyPair.ofScalar_total hnonzero
    rw [← KeyPair.ofRawSeed_eq_ofScalar hlen] at hkp
    exact ⟨kp, by rw [parse_of_seed h.raw (by omega), hkp]; rfl⟩

lemma parse_error (h : parse E text = .error f) :
    f.kind = .invalidVersion ∧ IsForeign text ∨ f.kind = .invalidValue ∨
      f.kind = .invalidEncoding := by
  obtain ⟨v, bs, hraw, hlen⟩ | hforeign | hunread := text_cases text
  · cases v with
    | account =>
      rw [parse_of_account hraw hlen, Outcome.map_eq_error] at h
      exact .inr (.inr (publicKeyOfBytes_error h))
    | seed =>
      rw [parse_of_seed hraw hlen, Outcome.map_eq_error] at h
      exact .inr (.inl (KeyPair.ofRawSeed_error h))
  · have hkind := parse_of_foreign (E := E) hforeign
    rw [h, Outcome.fails_error] at hkind
    exact .inl ⟨hkind, hforeign⟩
  · have hkind := parse_of_unread (E := E) hunread
    rw [h, Outcome.fails_error] at hkind
    exact .inr (.inl hkind)

lemma fails_version_iff : (parse E text).Fails .invalidVersion ↔ IsForeign text := by
  refine ⟨?_, parse_of_foreign⟩
  rintro ⟨f, hf, hkind⟩
  rcases parse_error hf with ⟨-, h⟩ | h | h
  · exact h
  · cases hkind.symm.trans h
  · cases hkind.symm.trans h

lemma fails_otherwise_iff :
    (parse E text).Fails .invalidValue ∨ (parse E text).Fails .invalidEncoding ↔
      (∀ Q, ¬ IsAddress E text Q) ∧ (∀ bs, ¬ IsSeed E text bs) ∧ ¬ IsForeign text := by
  constructor
  · intro h
    have hno (x : KeyMaterial E) (hx : parse E text = .ok x) : False := by
      rw [hx] at h
      exact h.elim (Outcome.not_fails_ok _ _) (Outcome.not_fails_ok _ _)
    refine ⟨fun Q hQ => hno _ (parse_eq_key_iff.mpr hQ), fun bs hbs => ?_, fun hforeign => ?_⟩
    · obtain ⟨kp, hkp⟩ := exists_pair_iff.mpr ⟨bs, hbs⟩
      exact hno _ hkp
    · obtain ⟨f, hf, hkind⟩ := parse_of_foreign (E := E) hforeign
      rw [hf, Outcome.fails_error, Outcome.fails_error, hkind] at h
      rcases h with h | h <;> cases h
  · rintro ⟨haddress, hseed, hforeign⟩
    rcases h : parse E text with f | Q | kp
    · rw [Outcome.fails_error, Outcome.fails_error]
      exact (parse_error h).resolve_left fun hf => hforeign hf.2
    · exact absurd (parse_eq_key_iff.mp h) (haddress Q)
    · obtain ⟨bs, hbs, -⟩ := parse_eq_pair_iff.mp h
      exact absurd hbs (hseed bs)

omit [Fact E.p.Prime] in
/-- **Every text is taken for what it carries.** An account in the subgroup is read as its public
key, a seed that is not zero as its pair, and a foreign version is reported as one. All other texts
are refused for their value or their encoding. So no account is taken for a seed, nor a seed for an
account. -/
theorem parse_classifies (hp : E.p.Prime) (text : String) :
    (∀ Q, parse E text = .ok (.key Q) ↔ IsAddress E text Q) ∧
    ((∃ kp, parse E text = .ok (.pair kp)) ↔ ∃ bs, IsSeed E text bs) ∧
    (∀ kp, parse E text = .ok (.pair kp) ↔ ∃ bs, IsSeed E text bs ∧
      kp.secret = bs.toNat % E.n ∧ kp.seed = some (Base32.encode (Version.seed.byte :: bs))) ∧
    ((parse E text).Fails .invalidVersion ↔ IsForeign text) ∧
    ((parse E text).Fails .invalidValue ∨ (parse E text).Fails .invalidEncoding ↔
      (∀ Q, ¬ IsAddress E text Q) ∧ (∀ bs, ¬ IsSeed E text bs) ∧ ¬ IsForeign text) ∧
    (∀ bs, Base32.decode text = .ok (Version.account.byte :: bs) →
      ∀ kp, parse E text ≠ .ok (.pair kp)) ∧
    ∀ bs, Base32.decode text = .ok (Version.seed.byte :: bs) →
      ∀ Q, parse E text ≠ .ok (.key Q) := by
  have := Fact.mk hp
  refine ⟨fun Q => parse_eq_key_iff, exists_pair_iff, fun kp => parse_eq_pair_iff,
    fails_version_iff, fails_otherwise_iff, fun bs hraw kp h => ?_, fun bs hraw Q h => ?_⟩
  · obtain ⟨bs', hseed, -⟩ := parse_eq_pair_iff.mp h
    cases hraw.symm.trans hseed.raw
  · obtain ⟨bs', -, hraw'⟩ := (parse_eq_key_iff.mp h).raw
    cases hraw.symm.trans hraw'

/-- The text of an account and that of a seed, a foreign version, and the point of order two in the
form of an account. -/
theorem parse_classifies_curve19 :
    curve19.p.Prime ∧
      IsAddress curve19 "GABAAAAAAAAAAAAAAAAAAAAAAAAAAAAAAAAAAAAAAAAAAAAAAAAAADI=" (.affine 13 12) ∧
      parse curve19 "GABAAAAAAAAAAAAAAAAAAAAAAAAAAAAAAAAAAAAAAAAAAAAAAAAAADI=" =
        .ok (.key (.affine 13 12)) ∧
      IsSeed curve19 KeyPair.seedText19 (Bytes.ofNat 32 26) ∧
      (∃ kp : KeyPair curve19, parse curve19 KeyPair.seedText19 = .ok (.pair kp)) ∧
      IsForeign "AAAAA===" ∧ (parse curve19 "AAAAA===").Fails .invalidVersion ∧
      (parse curve19 "GABAAAAAAAAAAAAAAAAAAAAAAAAAAAAAAAAAAAAAAAAAAAAAAAAAAAA=").Fails
        .invalidEncoding ∧
      ∀ Q, ¬ IsAddress curve19 "GABAAAAAAAAAAAAAAAAAAAAAAAAAAAAAAAAAAAAAAAAAAAAAAAAAAAA=" Q := by
  have hp := curve19_primeOrder.p_prime
  have haddress : IsAddress curve19 "GABAAAAAAAAAAAAAAAAAAAAAAAAAAAAAAAAAAAAAAAAAAAAAAAAAADI="
      (.affine 13 12) :=
    ⟨by decide +kernel, 2 :: Bytes.ofNat 32 13, by decide +kernel, by decide +kernel⟩
  have hseed : IsSeed curve19 KeyPair.seedText19 (Bytes.ofNat 32 26) :=
    ⟨by decide +kernel, by decide, by decide⟩
  have hforeign : IsForeign "AAAAA===" := by
    refine ⟨0, [0, 0], by decide +kernel, by decide, fun v => ?_⟩
    cases v <;> decide
  have htorsion : (parse curve19
      "GABAAAAAAAAAAAAAAAAAAAAAAAAAAAAAAAAAAAAAAAAAAAAAAAAAAAA=").Fails .invalidEncoding :=
    ⟨.notPublicKey, parse_of_error (by decide +kernel) (by decide), rfl⟩
  exact ⟨hp, haddress, ((parse_classifies hp _).1 _).mpr haddress, hseed,
    (parse_classifies hp _).2.1.mpr ⟨_, hseed⟩, hforeign,
    (parse_classifies hp _).2.2.2.1.mpr hforeign, htorsion,
    ((parse_classifies hp _).2.2.2.2.1.mp (.inr htorsion)).1⟩

end KeyMaterial

end RingBallot
