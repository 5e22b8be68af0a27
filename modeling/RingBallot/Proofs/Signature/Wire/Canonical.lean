import RingBallot.Proofs.Signature.Wire

/-!
The byte forms that are read as the same signature. Readers take every byte but the version in
front of an entry, so what is read is written again as it was read, under the version that the
writer is set to, whatever the modulus of the curve.
-/

namespace RingBallot

open RingBallot.Curve

variable {E : Curve} {scheme : Scheme}

namespace Scheme

/-- A whole version is one byte, and it is that byte which writers put in front. -/
lemma versionByte_of_whole {z : ℤ} (h : scheme.version.whole? = some z) :
    ∃ b : UInt8, (b.toNat : ℤ) = z ∧ scheme.versionByte = .ok b := by
  have hwithin : 0 ≤ z ∧ z ≤ 255 := of_decide_eq_true <|
    (Number.within_of_whole h 0 255).symm.trans scheme.version_within
  refine ⟨.ofNat z.toNat, ?_, ?_⟩
  · rw [UInt8.toNat_ofNat']
    omega
  · rw [versionByte, h]
    rfl

lemma versionByte_of_not_whole (h : scheme.version.whole? = none) :
    scheme.versionByte = .error (.fieldType "version_byte") := by
  rw [versionByte, h]
  rfl

end Scheme

namespace Signature

variable {σ : Signature} {bs bs' : Bytes}

lemma ofBytes_total (h : bs.length = 65) : ∃ σ, ofBytes bs = .ok σ :=
  ⟨_, if_neg (not_not.mpr h)⟩

lemma length_of_ofBytes (h : ofBytes bs = .ok σ) : bs.length = 65 := by
  by_contra hlen
  rw [ofBytes, if_pos hlen] at h
  cases h

lemma entry_of_ofBytes (h : ofBytes bs = .ok σ) (version : UInt8) :
    entry version σ = .ok (version :: bs.tail) := by
  have hlen := length_of_ofBytes h
  rw [ofBytes, if_neg (not_not.mpr hlen)] at h
  cases h
  have hr : (bs.tail.take width).length = width := by
    rw [List.length_take, List.length_tail, hlen]
    rfl
  have hs : (bs.tail.drop width).length = width := by
    rw [List.length_drop, List.length_tail, hlen]
    rfl
  rw [entry, Bytes.ofInt_eq_ok_iff.mpr ⟨hr, rfl⟩, Outcome.ok_bind,
    Bytes.ofInt_eq_ok_iff.mpr ⟨hs, rfl⟩, Outcome.ok_bind, List.take_append_drop, Outcome.pure_eq]

lemma toBytes_of_ofBytes (h : ofBytes bs = .ok σ) :
    toBytes scheme σ = scheme.versionByte >>= fun version => .ok (version :: bs.tail) :=
  bind_congr fun version => entry_of_ofBytes h version

lemma tail_eq_of_ofBytes (h : ofBytes bs = .ok σ) (h' : ofBytes bs' = .ok σ) :
    bs.tail = bs'.tail := by
  have hboth := (entry_of_ofBytes h 0).symm.trans (entry_of_ofBytes h' 0)
  rw [Except.ok.injEq, List.cons_eq_cons] at hboth
  exact hboth.2

lemma ofBytes_of_tail_eq (h : ofBytes bs = .ok σ) (htail : bs.tail = bs'.tail) :
    ofBytes bs' = .ok σ := by
  have hlen := length_of_ofBytes h
  have hlen' : bs'.length = 65 := by
    have := congrArg List.length htail
    rw [List.length_tail, List.length_tail] at this
    omega
  rw [ofBytes, if_neg (not_not.mpr hlen)] at h
  rw [ofBytes, if_neg (not_not.mpr hlen'), ← htail, h]

end Signature

namespace RingSignature

variable {σ : RingSignature} {w w' : Wire}

/-- The byte form under another version. -/
def Wire.stamped (w : Wire) (version : UInt8) : Wire :=
  ⟨w.entries.map fun bs => version :: bs.tail, w.keyImage⟩

/-- The byte form without its versions. -/
def Wire.content (w : Wire) : List Bytes × Bytes := (w.entries.map List.tail, w.keyImage)

lemma content_stamped (w : Wire) (version : UInt8) : (w.stamped version).content = w.content := by
  simp [Wire.stamped, Wire.content, Function.comp_def]

lemma toBytes_of_ofBytes (h : ofBytes E w = .ok σ) :
    toBytes E scheme σ = scheme.versionByte >>= fun version => .ok (w.stamped version) := by
  obtain ⟨pairs, hpairs, himage, hc, hr⟩ := ofBytes_eq_ok_iff.mp h
  have hzip : σ.c.zip σ.r = pairs := by
    rw [← hc, ← hr]
    simpa only [List.unzip_eq_map] using List.zip_unzip pairs
  refine bind_congr fun version => ?_
  have hentries : pairs.mapM (fun cr => Signature.entry version ⟨cr.1, cr.2⟩) =
      .ok (w.entries.map fun bs => version :: bs.tail) := by
    rw [Outcome.mapM_eq_ok, List.forall₂_map_right_iff]
    exact hpairs.flip.imp fun _ _ hbs => Signature.entry_of_ofBytes hbs version
  rw [hzip, hentries, Outcome.ok_bind, (compress_of_decompress himage).2, Outcome.ok_bind,
    Wire.stamped, Outcome.pure_eq]

lemma content_eq_of_ofBytes (h : ofBytes E w = .ok σ) (h' : ofBytes E w' = .ok σ) :
    w.content = w'.content := by
  have hw : toBytes E .default σ = .ok (w.stamped 48) := toBytes_of_ofBytes h
  have hw' : toBytes E .default σ = .ok (w'.stamped 48) := toBytes_of_ofBytes h'
  have hboth := Except.ok.inj (hw.symm.trans hw')
  rw [← content_stamped w, hboth, content_stamped]

lemma forall₂_of_tails {entries entries' : List Bytes} {pairs : List (ℤ × ℤ)}
    (h : List.Forall₂ (fun bs cr => Signature.ofBytes bs = .ok ⟨cr.1, cr.2⟩) entries pairs)
    (htails : entries.map List.tail = entries'.map List.tail) :
    List.Forall₂ (fun bs cr => Signature.ofBytes bs = .ok ⟨cr.1, cr.2⟩) entries' pairs := by
  induction h generalizing entries' with
  | nil =>
    rw [List.map_nil, eq_comm, List.map_eq_nil_iff] at htails
    rw [htails]
    exact .nil
  | cons hbs _ ih =>
    obtain _ | ⟨bs', rest'⟩ := entries'
    · cases htails
    · rw [List.map_cons, List.map_cons, List.cons_eq_cons] at htails
      exact .cons (Signature.ofBytes_of_tail_eq hbs htails.1) (ih htails.2)

lemma ofBytes_of_content_eq (h : ofBytes E w = .ok σ) (hcontent : w.content = w'.content) :
    ofBytes E w' = .ok σ := by
  obtain ⟨htails, himage⟩ := Prod.ext_iff.mp hcontent
  obtain ⟨pairs, hpairs, hread, hc, hr⟩ := ofBytes_eq_ok_iff.mp h
  have himage : w.keyImage = w'.keyImage := himage
  exact ofBytes_eq_ok_iff.mpr ⟨pairs, forall₂_of_tails hpairs htails, himage ▸ hread, hc, hr⟩

/-- Scalars that no order admits, two different versions, and an image that is a point modulo 49. -/
def wire49 : Wire where
  entries := [7 :: (Bytes.ofNat 32 5 ++ Bytes.ofNat 32 (2 ^ 256 - 1)),
    200 :: (Bytes.ofNat 32 0 ++ Bytes.ofNat 32 900)]
  keyImage := 2 :: Bytes.ofNat 32 4

end RingSignature

/-- **What is read is written as it was read, under the version that the writer is set to.** Any 65
bytes are read as a single signature. Byte forms of either kind, one of which is read, are read as
the same signature exactly if they differ in versions alone. Nothing here asks for a prime
modulus. -/
theorem toBytes_restores (E : Curve) (scheme : Scheme) :
    (∀ z, scheme.version.whole? = some z → ∃ b : UInt8, (b.toNat : ℤ) = z ∧
      (∀ bs : Bytes, bs.length = 65 →
        Signature.ofBytes bs >>= Signature.toBytes scheme = .ok (b :: bs.tail)) ∧
      ∀ w σ, RingSignature.ofBytes E w = .ok σ →
        RingSignature.toBytes E scheme σ = .ok (w.stamped b)) ∧
    (scheme.version.whole? = none →
      (∀ σ, (Signature.toBytes scheme σ).Fails .wrongType) ∧
      ∀ σ, (RingSignature.toBytes E scheme σ).Fails .wrongType) ∧
    (∀ bs : Bytes, bs.length = 65 → ∃ σ, Signature.ofBytes bs = .ok σ) ∧
    (∀ bs bs' σ, Signature.ofBytes bs = .ok σ →
      (Signature.ofBytes bs' = .ok σ ↔ bs.tail = bs'.tail)) ∧
    ∀ w w' σ, RingSignature.ofBytes E w = .ok σ →
      (RingSignature.ofBytes E w' = .ok σ ↔ w.content = w'.content) := by
  refine ⟨fun z hz => ?_, fun hnone => ?_, fun bs => Signature.ofBytes_total, fun bs bs' σ h => ?_,
    fun w w' σ h => ?_⟩
  · obtain ⟨b, hb, hbyte⟩ := Scheme.versionByte_of_whole hz
    refine ⟨b, hb, fun bs hlen => ?_, fun w σ h => ?_⟩
    · obtain ⟨σ, hσ⟩ := Signature.ofBytes_total hlen
      rw [hσ, Outcome.ok_bind, Signature.toBytes_of_ofBytes hσ, hbyte, Outcome.ok_bind]
    · rw [RingSignature.toBytes_of_ofBytes h, hbyte, Outcome.ok_bind]
  · have hbyte := Scheme.versionByte_of_not_whole hnone
    refine ⟨fun σ => ?_, fun σ => ?_⟩
    · rw [Signature.toBytes, hbyte, Outcome.error_bind, Outcome.fails_error]
      rfl
    · rw [RingSignature.toBytes, hbyte, Outcome.error_bind, Outcome.fails_error]
      rfl
  · exact ⟨Signature.tail_eq_of_ofBytes h, Signature.ofBytes_of_tail_eq h⟩
  · exact ⟨RingSignature.content_eq_of_ofBytes h, RingSignature.ofBytes_of_content_eq h⟩

/-- The square of 7 for a modulus, and a writer that is set to the version 201. -/
theorem toBytes_restores_curve49 :
    ¬ curve49.p.Prime ∧
      (Scheme.ofWhole 64 201 (by decide)).version.whole? = some 201 ∧
      (7 :: Bytes.zeros 64 : Bytes).length = 65 ∧
      Signature.ofBytes (7 :: Bytes.zeros 64) >>=
        Signature.toBytes (.ofWhole 64 201 (by decide)) = .ok (201 :: Bytes.zeros 64) ∧
      ∃ σ, RingSignature.ofBytes curve49 RingSignature.wire49 = .ok σ ∧
        RingSignature.toBytes curve49 (.ofWhole 64 201 (by decide)) σ =
          .ok (RingSignature.wire49.stamped 201) ∧
        RingSignature.ofBytes curve49 (RingSignature.wire49.stamped 201) = .ok σ := by
  have hwhole : (Scheme.ofWhole 64 201 (by decide)).version.whole? = some 201 := rfl
  have hlen : (7 :: Bytes.zeros 64 : Bytes).length = 65 := by decide
  have hread : RingSignature.ofBytes curve49 RingSignature.wire49 =
      .ok ⟨.affine 4 30, [5, 0], [2 ^ 256 - 1, 900]⟩ := by decide +kernel
  obtain ⟨hset, -, -, -, hsame⟩ := toBytes_restores curve49 (.ofWhole 64 201 (by decide))
  obtain ⟨b, hb, hsingle, hring⟩ := hset 201 hwhole
  obtain rfl : b = 201 := UInt8.toNat_inj.mp (Nat.cast_injective hb)
  exact ⟨by decide +kernel, hwhole, hlen, hsingle _ hlen, _, hread, hring _ _ hread,
    (hsame _ _ _ hread).mpr (RingSignature.content_stamped _ _).symm⟩

end RingBallot
