import Mathlib.Tactic.NormNum
import RingBallot.Proofs.Base32.Spelling
import RingBallot.Proofs.KeyText

/-!
All texts that stand for the same key material. An account has eight of them and a seed two, since
the last character of its text has spare bits that are not looked at; the one that is written has
zeros there.
-/

namespace RingBallot.KeyText

variable {v : Version} {payload : Bytes} {text : String} {u : List Bool}

def spare (payload : Bytes) : ℕ := Base32.spare (payload.length + 1)

/-- The text of a payload with the given spare bits. -/
def textWith (v : Version) (payload : Bytes) (u : List Bool) : String :=
  Base32.ofBits (Base32.stream (v.byte :: payload) ++ u)

lemma decode_eq_ok_iff_textWith : decode v text = .ok payload ↔
    2 ≤ payload.length ∧
      ∃ u : List Bool, u.length = spare payload ∧ text = textWith v payload u := by
  rw [decode_eq_ok_iff, Base32.decode_eq_ok_iff_spare, List.length_cons]
  rfl

lemma encode_eq_textWith_iff (hlen : payload.length ≤ maxPayload) (hu : u.length = spare payload) :
    encode v payload = .ok (textWith v payload u) ↔ u = List.replicate (spare payload) false := by
  have hzeros : Base32.encode (v.byte :: payload) =
      textWith v payload (List.replicate (spare payload) false) := Base32.encode_eq_ofBits _
  rw [encode_eq_ok_iff, and_iff_right hlen, hzeros]
  constructor
  · intro h
    exact (Base32.ofBits_append_injective List.length_replicate hu h).symm
  · rintro rfl
    rfl

/-- **The texts of a payload differ in the spare bits alone.** A text is read as a payload of two
bytes at least exactly if it is written like it up to the spare bits, and any of these will do.
Payloads of 100 bytes at most can be written, and then the spare bits are zeros. So a payload of
two bytes at least has as many texts as there are values of its spare bits. -/
theorem texts_of_payload (v : Version) (payload : Bytes) :
    (∀ text, decode v text = .ok payload ↔ 2 ≤ payload.length ∧
      ∃ u : List Bool, u.length = spare payload ∧ text = textWith v payload u) ∧
    ((∃ text, encode v payload = .ok text) ↔ payload.length ≤ maxPayload) ∧
    (payload.length ≤ maxPayload → ∀ u : List Bool, u.length = spare payload →
      (encode v payload = .ok (textWith v payload u) ↔
        u = List.replicate (spare payload) false)) ∧
    (2 ≤ payload.length → {text | decode v text = .ok payload}.encard = 2 ^ spare payload) := by
  refine ⟨fun text => decode_eq_ok_iff_textWith, ?_,
    fun hlen u hu => encode_eq_textWith_iff hlen hu, fun hlen => ?_⟩
  · constructor
    · rintro ⟨text, h⟩
      exact (encode_eq_ok_iff.mp h).1
    · exact encode_total v
  · simp only [decode_eq_ok_iff, and_iff_right hlen]
    exact Base32.encard_texts (v.byte :: payload)

/-- The text of an account that is read, and is not the one that is written. -/
theorem second_text_of_account :
    decode .account "GABQAAAAAAAAAAAAAAAAAAAAAAAAAAAAAAAAAAAAAAAAAAAAAAAAADH=" =
        .ok (3 :: Bytes.ofNat 32 12) ∧
      encode .account (3 :: Bytes.ofNat 32 12) =
        .ok "GABQAAAAAAAAAAAAAAAAAAAAAAAAAAAAAAAAAAAAAAAAAAAAAAAAADA=" ∧
      encode .account (3 :: Bytes.ofNat 32 12) ≠
        .ok "GABQAAAAAAAAAAAAAAAAAAAAAAAAAAAAAAAAAAAAAAAAAAAAAAAAADH=" := by
  refine ⟨?_, ?_, ?_⟩ <;> decide +kernel

/-- Any three bits at the end of the text of an account are read, and three zeros are written. -/
theorem texts_of_payload_account :
    2 ≤ (3 :: Bytes.ofNat 32 12).length ∧ (3 :: Bytes.ofNat 32 12).length ≤ maxPayload ∧
      [true, false, true].length = spare (3 :: Bytes.ofNat 32 12) ∧
      decode .account (textWith .account (3 :: Bytes.ofNat 32 12) [true, false, true]) =
        .ok (3 :: Bytes.ofNat 32 12) ∧
      encode .account (3 :: Bytes.ofNat 32 12) ≠
        .ok (textWith .account (3 :: Bytes.ofNat 32 12) [true, false, true]) ∧
      {text | decode .account text = .ok (3 :: Bytes.ofNat 32 12)}.encard = 8 := by
  have hlen : 2 ≤ (3 :: Bytes.ofNat 32 12).length := by decide
  have hmax : (3 :: Bytes.ofNat 32 12).length ≤ maxPayload := by decide
  have hu : [true, false, true].length = spare (3 :: Bytes.ofNat 32 12) := by decide
  obtain ⟨hread, -, hwritten, hcard⟩ := texts_of_payload .account (3 :: Bytes.ofNat 32 12)
  refine ⟨hlen, hmax, hu, (hread _).mpr ⟨hlen, _, hu, rfl⟩, ?_, ?_⟩
  · rw [ne_eq, hwritten hmax _ hu]
    decide
  · rw [hcard hlen, ← hu]
    norm_num

end RingBallot.KeyText
