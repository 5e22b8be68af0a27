import RingBallot.Proofs.KeyPair
import RingBallot.Signature.Ring

/-!
The byte forms of signatures. What a signature is written as is read back, so that a verifier who
is given bytes comes to the verdict on what they stand for, whether it is good or bad.
-/

namespace RingBallot

open RingBallot.Curve

variable {E : Curve} {m : Message} {scheme : Scheme}

/-! ### Single signatures -/

namespace Signature

variable {σ : Signature} {bs : Bytes}

lemma ofBytes_of_entry {version : UInt8} (h : entry version σ = .ok bs) : ofBytes bs = .ok σ := by
  obtain ⟨r, hr, h⟩ := Outcome.bind_eq_ok.mp h
  obtain ⟨s, hs, h⟩ := Outcome.bind_eq_ok.mp h
  cases h
  obtain ⟨hrlen, hr⟩ := Bytes.ofInt_eq_ok_iff.mp hr
  obtain ⟨hslen, hs⟩ := Bytes.ofInt_eq_ok_iff.mp hs
  have hlen : (version :: (r ++ s)).length = 65 := by
    rw [List.length_cons, List.length_append, hrlen, hslen]
    rfl
  rw [ofBytes, if_neg (not_not.mpr hlen), List.tail_cons, ← hrlen, List.take_left, List.drop_left,
    hr, hs]
  rfl

lemma ofBytes_of_toBytes (h : toBytes scheme σ = .ok bs) : ofBytes bs = .ok σ := by
  obtain ⟨version, -, h⟩ := Outcome.bind_eq_ok.mp h
  exact ofBytes_of_entry h

lemma verifyBytes_of_toBytes [Fact E.p.Prime] {Y : Point} {key : Bytes}
    (hY : E.inSubgroup Y = .ok true) (hkey : E.compress Y = .ok key)
    (hσ : toBytes scheme σ = .ok bs) : verifyBytes E m key bs = verify E m Y σ := by
  rw [verifyBytes, publicKeyOfBytes_of_compress hY hkey, Outcome.ok_bind, ofBytes_of_toBytes hσ,
    Outcome.ok_bind]

end Signature

/-! ### Ring signatures -/

namespace RingSignature

variable {σ : RingSignature} {w : Wire}

/-- A signature as far as its shares and responses go together. -/
def shortened (σ : RingSignature) : RingSignature :=
  ⟨σ.keyImage, σ.c.take σ.r.length, σ.r.take σ.c.length⟩

lemma shortened_eq_self_iff : σ.shortened = σ ↔ σ.c.length = σ.r.length := by
  obtain ⟨image, c, r⟩ := σ
  simp only [shortened, RingSignature.mk.injEq, true_and, List.take_eq_self_iff]
  exact Nat.le_antisymm_iff.symm

lemma shortened_eq (σ : RingSignature) :
    σ.shortened = ⟨σ.keyImage, (σ.c.zip σ.r).map Prod.fst, (σ.c.zip σ.r).map Prod.snd⟩ := by
  rw [List.zip_eq_zip_take_min, List.map_fst_zip (by simp), List.map_snd_zip (by simp), min_comm,
    ← List.take_eq_take_min, min_comm, ← List.take_eq_take_min]
  rfl

/-- The place of an entry is told when it cannot be read, and is of no other use. -/
lemma entryOfBytes_eq_ok_iff {i : ℕ} {bs : Bytes} {cr : ℤ × ℤ} :
    entryOfBytes i bs = .ok cr ↔ Signature.ofBytes bs = .ok ⟨cr.1, cr.2⟩ := by
  unfold entryOfBytes
  rcases Signature.ofBytes bs with f | ⟨c, r⟩
  · exact iff_of_false nofun nofun
  · simp only [Outcome.pure_eq, Except.ok.injEq, Signature.mk.injEq, Prod.ext_iff]

lemma ofBytes_eq_ok_iff : ofBytes E w = .ok σ ↔ ∃ pairs : List (ℤ × ℤ),
    List.Forall₂ (fun bs cr => Signature.ofBytes bs = .ok ⟨cr.1, cr.2⟩) w.entries pairs ∧
      E.decompress w.keyImage = .ok σ.keyImage ∧ pairs.map Prod.fst = σ.c ∧
        pairs.map Prod.snd = σ.r := by
  rw [ofBytes, Outcome.bind_eq_ok]
  refine exists_congr fun pairs => and_congr ?_ ?_
  · exact Outcome.mapM_zipIdx_eq_ok fun _ _ _ => entryOfBytes_eq_ok_iff
  constructor
  · intro h
    split_ifs at h with hlen
    · cases h
    obtain ⟨image, himage, h⟩ := Outcome.bind_eq_ok.mp h
    cases h
    exact ⟨himage, rfl, rfl⟩
  · rintro ⟨himage, hc, hr⟩
    rw [if_neg (not_not.mpr (length_of_decompress himage)), himage, Outcome.ok_bind, hc, hr,
      Outcome.pure_eq]

variable [Fact E.p.Prime]

/-- Shares and responses come back as far as they go together. -/
lemma ofBytes_of_toBytes (h : toBytes E scheme σ = .ok w) :
    ofBytes E w = .ok ⟨σ.keyImage, (σ.c.zip σ.r).map Prod.fst, (σ.c.zip σ.r).map Prod.snd⟩ := by
  obtain ⟨version, -, h⟩ := Outcome.bind_eq_ok.mp h
  obtain ⟨entries, hentries, h⟩ := Outcome.bind_eq_ok.mp h
  obtain ⟨image, himage, h⟩ := Outcome.bind_eq_ok.mp h
  cases h
  have hread := (Outcome.mapM_eq_ok.mp hentries).flip.imp fun _ _ => Signature.ofBytes_of_entry
  exact ofBytes_eq_ok_iff.mpr ⟨_, hread,
    decompress_of_compress (contains_of_compress himage) himage, rfl, rfl⟩

lemma ofBytes_eq_shortened (h : toBytes E scheme σ = .ok w) : ofBytes E w = .ok σ.shortened := by
  rw [ofBytes_of_toBytes h, shortened_eq]

lemma ofBytes_of_toBytes_of_length (hlen : σ.c.length = σ.r.length)
    (h : toBytes E scheme σ = .ok w) : ofBytes E w = .ok σ := by
  rw [ofBytes_eq_shortened h, shortened_eq_self_iff.mpr hlen]

lemma verifyBytes_of_toBytes {ring : List Point} {keys : List Bytes}
    (hring : ∀ Y ∈ ring, E.inSubgroup Y = .ok true) (hkeys : ring.mapM E.compress = .ok keys)
    (hlen : σ.c.length = σ.r.length) (hσ : toBytes E scheme σ = .ok w) :
    verifyBytes E m keys w = verify E m ring σ := by
  have hread : keys.mapM E.publicKeyOfBytes = .ok ring :=
    Outcome.mapM_of_mapM hkeys fun Y hY _ hbs => publicKeyOfBytes_of_compress (hring Y hY) hbs
  rw [verifyBytes, hread, Outcome.ok_bind, ofBytes_of_toBytes_of_length hlen hσ, Outcome.ok_bind]

end RingSignature

/-- **Of a ring signature as much comes back as there is of both its lists.** So exactly the
signatures with a response for every share come back whole. -/
theorem RingSignature.ofBytes_toBytes_iff (hp : E.p.Prime) {σ : RingSignature} {w : Wire}
    (h : toBytes E scheme σ = .ok w) :
    ofBytes E w = .ok σ.shortened ∧ (ofBytes E w = .ok σ ↔ σ.c.length = σ.r.length) := by
  have := Fact.mk hp
  have hread := ofBytes_eq_shortened h
  refine ⟨hread, ?_⟩
  rw [hread, Except.ok.injEq]
  exact shortened_eq_self_iff

/-- A share without a response is not written. -/
theorem RingSignature.share_lost_on_wire :
    ∃ w, curve19.p.Prime ∧ toBytes curve19 .default ⟨.affine 12 3, [3, 4], [5]⟩ = .ok w ∧
      ofBytes curve19 w = .ok ⟨.affine 12 3, [3], [5]⟩ ∧
      ofBytes curve19 w ≠ .ok ⟨.affine 12 3, [3, 4], [5]⟩ :=
  ⟨⟨[48 :: (Bytes.ofNat 32 3 ++ Bytes.ofNat 32 5)], 3 :: Bytes.ofNat 32 12⟩,
    curve19_primeOrder.p_prime, by decide +kernel, by decide +kernel, by decide +kernel⟩

/-- Infinity as an image, and components that no order admits. -/
theorem RingSignature.ofBytes_toBytes_iff_curve19 :
    ∃ w, curve19.p.Prime ∧
      toBytes curve19 .default ⟨.infinity, [3, 2 ^ 256 - 1], [0, 900]⟩ = .ok w ∧
      ofBytes curve19 w = .ok ⟨.infinity, [3, 2 ^ 256 - 1], [0, 900]⟩ := by
  have hp := curve19_primeOrder.p_prime
  have hw : toBytes curve19 .default ⟨.infinity, [3, 2 ^ 256 - 1], [0, 900]⟩ =
      .ok ⟨[48 :: (Bytes.ofNat 32 3 ++ Bytes.ofNat 32 0),
        48 :: (Bytes.ofNat 32 (2 ^ 256 - 1) ++ Bytes.ofNat 32 900)], Bytes.zeros 33⟩ := by
    decide +kernel
  exact ⟨_, hp, hw, (ofBytes_toBytes_iff hp hw).2.mpr rfl⟩

/-- **Verifiers of bytes and verifiers of what they stand for agree**, on the verdict and its
reason, for every message, every scheme and signatures of any quality. -/
theorem verifyBytes_eq_verify (hp : E.p.Prime) (m : Message) (scheme : Scheme) :
    (∀ Y key σ bs, E.inSubgroup Y = .ok true → E.compress Y = .ok key →
      Signature.toBytes scheme σ = .ok bs →
      Signature.verifyBytes E m key bs = Signature.verify E m Y σ) ∧
    ∀ ring keys σ w, (∀ Y ∈ ring, E.inSubgroup Y = .ok true) →
      ring.mapM E.compress = .ok keys → σ.c.length = σ.r.length →
      RingSignature.toBytes E scheme σ = .ok w →
      RingSignature.verifyBytes E m keys w = RingSignature.verify E m ring σ := by
  have := Fact.mk hp
  exact ⟨fun _ _ _ _ => Signature.verifyBytes_of_toBytes,
    fun _ _ _ _ => RingSignature.verifyBytes_of_toBytes⟩

/-- A component out of range, and a key image of order two: the bytes of both signatures are read
and refused, for the reason for which the signatures are. -/
theorem verifyBytes_eq_verify_curve19 :
    ∃ key bs keys w, curve19.p.Prime ∧
      (∀ Y ∈ [.affine 12 3, .affine 13 12], curve19.inSubgroup Y = .ok true) ∧
      (curve19.compress (.affine 13 12) = .ok key ∧
        Signature.toBytes .default ⟨900, 3⟩ = .ok bs ∧
        Signature.verifyBytes curve19 (.text "vote") key bs = .ok (.rejected (.component .r))) ∧
      [.affine 12 3, .affine 13 12].mapM curve19.compress = .ok keys ∧
      RingSignature.toBytes curve19 .default ⟨.affine 0 0, [3, 4], [5, 6]⟩ = .ok w ∧
      RingSignature.verifyBytes curve19 (.text "vote") keys w = .ok (.rejected .imageOutside) := by
  have hp := curve19_primeOrder.p_prime
  have hring : ∀ Y ∈ [.affine 12 3, .affine 13 12], curve19.inSubgroup Y = .ok true := by
    decide +kernel
  have hkey : curve19.compress (.affine 13 12) = .ok (2 :: Bytes.ofNat 32 13) := by
    decide +kernel
  have hbs : Signature.toBytes .default ⟨900, 3⟩ =
      .ok (48 :: (Bytes.ofNat 32 900 ++ Bytes.ofNat 32 3)) := by decide +kernel
  have hkeys : [.affine 12 3, .affine 13 12].mapM curve19.compress =
      .ok [3 :: Bytes.ofNat 32 12, 2 :: Bytes.ofNat 32 13] := by decide +kernel
  have hw : RingSignature.toBytes curve19 .default ⟨.affine 0 0, [3, 4], [5, 6]⟩ =
      .ok ⟨[48 :: (Bytes.ofNat 32 3 ++ Bytes.ofNat 32 5),
        48 :: (Bytes.ofNat 32 4 ++ Bytes.ofNat 32 6)], 2 :: Bytes.zeros 32⟩ := by decide +kernel
  obtain ⟨hsingle, hmany⟩ := verifyBytes_eq_verify hp (.text "vote") .default
  have hno := hsingle _ _ _ _ (hring _ (by decide)) hkey hbs
  have hnone := hmany _ _ _ _ hring hkeys rfl hw
  refine ⟨_, _, _, _, hp, hring, ⟨hkey, hbs, ?_⟩, hkeys, hw, ?_⟩
  · rw [hno]
    decide +kernel
  · rw [hnone]
    decide +kernel

end RingBallot
