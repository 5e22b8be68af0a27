import RingBallot.KeyText
import RingBallot.Proofs.Base32

/-!
Printable key material is read back under the version that it was written with, and refused under
the other. Only payloads of fewer than two bytes are too short to be read at all. The version shows
in the first letter of a text.
-/

namespace RingBallot

/-- The letter that the texts of a version start with. -/
def Version.letter : Version → Char
  | account => 'G'
  | seed => 'S'

namespace KeyText

lemma version_byte (v : Version) : version v.byte.toNat = .ok v := by
  cases v <;> rfl

lemma encode_eq_ok_iff {v : Version} {payload : Bytes} {text : String} :
    encode v payload = .ok text ↔
      payload.length ≤ maxPayload ∧ Base32.encode (v.byte :: payload) = text := by
  unfold encode
  split_ifs with hlen
  · exact iff_of_false nofun fun h => absurd h.1 (by omega)
  · rw [Outcome.pure_eq, Except.ok.injEq]
    exact (and_iff_right (by omega)).symm

lemma decode_eq (v : Version) (text : String) : decode v text =
    Base32.decode text >>= fun raw =>
      if raw.length < 3 then .error .textTooShort
      else if raw.headD 0 ≠ v.byte then .error (.wrongVersion v (raw.headD 0))
      else .ok raw.tail := by
  refine bind_congr fun raw => ?_
  split_ifs <;> rfl

lemma decode_of_other {v : Version} {b : UInt8} {payload : Bytes} {text : String}
    (h : Base32.decode text = .ok (b :: payload)) (hlen : 2 ≤ payload.length) (hb : b ≠ v.byte) :
    decode v text = .error (.wrongVersion v b) := by
  have hraw : ¬ (b :: payload).length < 3 := by
    rw [List.length_cons]
    omega
  rw [decode_eq, h, Outcome.ok_bind, if_neg hraw, List.headD_cons, if_pos hb]

lemma decode_of_raw {v : Version} {payload : Bytes} {text : String}
    (h : Base32.decode text = .ok (v.byte :: payload)) (hlen : 2 ≤ payload.length) (w : Version) :
    decode w text = if w = v then .ok payload else .error (.wrongVersion w v.byte) := by
  split_ifs with hw
  · have hraw : ¬ (v.byte :: payload).length < 3 := by
      rw [List.length_cons]
      omega
    rw [hw, decode_eq, h, Outcome.ok_bind, if_neg hraw, List.headD_cons, List.tail_cons,
      if_neg (not_not.mpr rfl)]
  · exact decode_of_other h hlen fun hb => hw (Version.byte_injective hb).symm

lemma decode_of_unread {text : String} (h : ∀ raw, Base32.decode text = .ok raw → raw.length < 3)
    (v : Version) : (decode v text).Fails .invalidValue := by
  rw [decode_eq]
  rcases hraw : Base32.decode text with f | raw
  · exact ⟨f, rfl, Base32.decode_error hraw⟩
  · exact ⟨.textTooShort, by rw [Outcome.ok_bind, if_pos (h raw hraw)], rfl⟩

lemma raw_of_encode {v : Version} {payload : Bytes} {text : String}
    (h : encode v payload = .ok text) : Base32.decode text = .ok (v.byte :: payload) := by
  rw [← (encode_eq_ok_iff.mp h).2, Base32.decode_encode]

lemma decode_of_encode {v : Version} {payload : Bytes} {text : String}
    (h : encode v payload = .ok text) (hlen : 2 ≤ payload.length) (w : Version) :
    decode w text = if w = v then .ok payload else .error (.wrongVersion w v.byte) :=
  decode_of_raw (raw_of_encode h) hlen w

/-- A text gives what stands behind the version byte, if that is two bytes at least. -/
lemma decode_eq_ok_iff {v : Version} {payload : Bytes} {text : String} :
    decode v text = .ok payload ↔
      2 ≤ payload.length ∧ Base32.decode text = .ok (v.byte :: payload) := by
  constructor
  · intro h
    rw [decode_eq] at h
    obtain ⟨raw, hraw, h⟩ := Outcome.bind_eq_ok.mp h
    split_ifs at h with hshort hbyte
    cases h
    obtain _ | ⟨b, payload⟩ := raw
    · exact absurd (by decide) hshort
    rw [not_not, List.headD_cons] at hbyte
    rw [List.length_cons] at hshort
    rw [hbyte] at hraw
    exact ⟨by rw [List.tail_cons]; omega, hraw⟩
  · rintro ⟨hlen, h⟩
    rw [decode_of_raw h hlen, if_pos rfl]

lemma encode_total (v : Version) {payload : Bytes} (h : payload.length ≤ maxPayload) :
    ∃ text, encode v payload = .ok text :=
  ⟨_, encode_eq_ok_iff.mpr ⟨h, rfl⟩⟩

lemma encode_of_long (v : Version) {payload : Bytes} (h : maxPayload < payload.length) :
    encode v payload = .error .payloadTooLong :=
  if_pos h

lemma head?_of_encode {v : Version} {payload : Bytes} {text : String}
    (h : encode v payload = .ok text) : text.toList.head? = some v.letter := by
  have hletter : Base32.char ((Base32.bits 8 v.byte.toNat).take 5) = v.letter := by
    cases v <;> decide
  rw [← (encode_eq_ok_iff.mp h).2, Base32.head?_encode, hletter]

/-- **Key material is read back as it was written**, under its own version and no other. The bytes
of the two versions are the numbers that name them, and a text shows its version in its first
letter. A payload of fewer than two bytes is written and cannot be read, one of more than 100 is
not written. -/
theorem written_read_back (v : Version) (payload : Bytes) :
    version v.byte.toNat = .ok v ∧
    (2 ≤ payload.length → payload.length ≤ 100 → ∃ text, encode v payload = .ok text ∧
      decode v text = .ok payload ∧ ∀ w, w ≠ v → (decode w text).Fails .invalidVersion) ∧
    (∀ text, encode v payload = .ok text → text.toList.head? = some v.letter) ∧
    (payload.length < 2 → ∃ text, encode v payload = .ok text ∧
      ∀ w, (decode w text).Fails .invalidValue) ∧
    (100 < payload.length → (encode v payload).Fails .invalidValue) := by
  refine ⟨version_byte v, fun hlen hmax => ?_, fun text h => head?_of_encode h, fun hshort => ?_,
    fun hlong => ⟨.payloadTooLong, encode_of_long v hlong, rfl⟩⟩
  · obtain ⟨text, htext⟩ := encode_total v hmax
    have hdec := decode_of_encode htext hlen
    refine ⟨text, htext, by rw [hdec, if_pos rfl], fun w hw => ⟨.wrongVersion w v.byte, ?_, rfl⟩⟩
    rw [hdec, if_neg hw]
  · have hmax : payload.length ≤ maxPayload := by
      unfold maxPayload
      omega
    obtain ⟨text, htext⟩ := encode_total v hmax
    refine ⟨text, htext, decode_of_unread fun raw hraw => ?_⟩
    rw [raw_of_encode htext, Except.ok.injEq] at hraw
    rw [← hraw, List.length_cons]
    omega

/-- An account of 33 bytes, a seed of a single byte, and one of 101. -/
theorem written_read_back_account :
    2 ≤ (3 :: Bytes.ofNat 32 12).length ∧ (3 :: Bytes.ofNat 32 12).length ≤ 100 ∧
      (∃ text, encode .account (3 :: Bytes.ofNat 32 12) = .ok text ∧
        decode .account text = .ok (3 :: Bytes.ofNat 32 12) ∧
        (decode .seed text).Fails .invalidVersion ∧ text.toList.head? = some 'G') ∧
      ([7] : Bytes).length < 2 ∧
      (∃ text, encode .seed [7] = .ok text ∧ text.toList.head? = some 'S' ∧
        (decode .seed text).Fails .invalidValue) ∧
      100 < (Bytes.zeros 101).length ∧ (encode .seed (Bytes.zeros 101)).Fails .invalidValue := by
  have hlen : 2 ≤ (3 :: Bytes.ofNat 32 12).length := by decide
  have hmax : (3 :: Bytes.ofNat 32 12).length ≤ 100 := by decide
  have hlong : 100 < (Bytes.zeros 101).length := by decide
  obtain ⟨-, htrip, hletter, -⟩ := written_read_back .account (3 :: Bytes.ofNat 32 12)
  obtain ⟨text, htext, hback, hother⟩ := htrip hlen hmax
  obtain ⟨-, -, hletter', hshort, -⟩ := written_read_back .seed [7]
  obtain ⟨text', htext', hno⟩ := hshort (by decide)
  exact ⟨hlen, hmax, ⟨text, htext, hback, hother .seed nofun, hletter text htext⟩, by decide,
    ⟨text', htext', hletter' text' htext', hno .seed⟩, hlong,
    (written_read_back .seed (Bytes.zeros 101)).2.2.2.2 hlong⟩

end KeyText

end RingBallot
