import Mathlib.Data.List.Induction
import RingBallot.Base32
import RingBallot.Proofs.Outcome

/-!
Base 32 text is read back. Its characters carry the bits of the bytes and fewer than five zeros
behind them, too few for another byte, and only five of the eight ways to fill up the last eight
characters occur.
-/

namespace RingBallot.Base32

open scoped CorePower

/-! ### Bits -/

lemma bits_value (bs : List Bool) : bits bs.length (value bs) = bs := by
  induction bs using List.reverseRecOn with
  | nil => rfl
  | append_singleton bs b ih =>
    have hdiv : (2 * value bs + b.toNat) / 2 = value bs := by
      cases b
      · simp
      · simp only [Bool.toNat_true]
        omega
    have hmod : ((2 * value bs + b.toNat) % 2 == 1) = b := by
      cases b <;> simp
    rw [List.length_append, List.length_singleton, bits, value_concat, hdiv, hmod, ih]

lemma value_lt (bs : List Bool) : value bs < 2 ^ bs.length := by
  have h := value_bits bs.length (value bs)
  rw [bits_value] at h
  rw [h]
  exact Nat.mod_lt _ (Nat.two_pow_pos _)

/-- The bits of bytes, one byte after the other. -/
def stream (bs : Bytes) : List Bool := bs.flatMap fun b => bits 8 b.toNat

@[simp] lemma stream_nil : stream [] = [] := rfl

lemma stream_cons (b : UInt8) (bs : Bytes) : stream (b :: bs) = bits 8 b.toNat ++ stream bs := rfl

lemma length_stream (bs : Bytes) : (stream bs).length = 8 * bs.length := by
  simp [stream, List.length_flatMap, Nat.mul_comm]

/-- The bits of one character, missing ones being zero. -/
def filled (g : List Bool) : List Bool := g ++ List.replicate (5 - g.length) false

lemma length_filled {g : List Bool} (h : g.length ≤ 5) : (filled g).length = 5 := by
  simp only [filled, List.length_append, List.length_replicate]
  omega

/-- The characters carry the bits, and fewer than five zeros behind them. -/
lemma flatMap_filled (l : List Bool) :
    ∃ k < 5, (groupsOf 5 l).flatMap filled = l ++ List.replicate k false := by
  induction l using groupsOf.induct 5 with
  | case1 l h0 =>
    obtain rfl : l = [] := h0.resolve_right (by omega)
    exact ⟨0, by omega, by simp⟩
  | case2 l h0 ih =>
    have hl : l ≠ [] := fun h => h0 (.inl h)
    have hpos := List.length_pos_iff.mpr hl
    rcases Nat.lt_or_ge 5 l.length with h | h
    · obtain ⟨k, hk, hrest⟩ := ih
      have htake : filled (l.take 5) = l.take 5 := by
        simp [filled]
        omega
      refine ⟨k, hk, ?_⟩
      rw [groupsOf_of_ne_nil (by omega) hl, List.flatMap_cons, htake, hrest, ← List.append_assoc,
        List.take_append_drop]
    · exact ⟨5 - l.length, by omega, by rw [groupsOf_of_length_le hl h]; simp [filled]⟩

lemma bytes_cons {g l : List Bool} (hg : g.length = 8) :
    bytes (g ++ l) = UInt8.ofNat (value g) :: bytes l := by
  rw [bytes, groupsOf_append (by omega) hg, List.filter_cons_of_pos (by simpa using hg),
    List.map_cons, bytes]

/-- Fewer than eight bits behind whole bytes are no byte. -/
lemma bytes_append (bs : Bytes) {tail : List Bool} (h : tail.length < 8) :
    bytes (stream bs ++ tail) = bs := by
  induction bs with
  | nil =>
    rw [stream_nil, List.nil_append, bytes]
    by_cases htail : tail = []
    · simp [htail]
    · rw [groupsOf_of_length_le htail (by omega), List.filter_cons_of_neg (by simp; omega)]
      rfl
  | cons b rest ih =>
    have hb : UInt8.ofNat (value (bits 8 b.toNat)) = b := by
      rw [value_bits, Nat.mod_eq_of_lt b.toNat_lt, UInt8.ofNat_toNat]
    rw [stream_cons, List.append_assoc, bytes_cons (length_bits _ _), hb, ih]

/-! ### Characters -/

lemma digit_alphabet : ∀ v < 32, digit (alphabet.getD v 'A') = .ok v := by decide

lemma digit_char {g : List Bool} (h : g.length ≤ 5) : digit (char g) = .ok (value (filled g)) := by
  have hlt := value_lt (filled g)
  rw [length_filled h] at hlt
  exact digit_alphabet _ hlt

lemma char_of_digit {c : Char} {v : ℕ} (h : digit c = .ok v) :
    c ∈ alphabet ∧ char (bits 5 v) = c := by
  have hall : ∀ d ∈ alphabet, (digit d).map (fun k => char (bits 5 k)) = .ok d :=
    List.forall_iff_forall_mem.mp (by decide)
  have hc : c ∈ alphabet := by
    by_contra hno
    rw [digit, List.idxOf?_eq_none_iff.mpr hno] at h
    cases h
  have hchar := hall c hc
  rw [h] at hchar
  exact ⟨hc, Except.ok.inj hchar⟩

lemma ascii_of_mem : ∀ c ∈ '=' :: alphabet, ¬ 127 < c.toNat :=
  List.forall_iff_forall_mem.mp (by decide)

lemma ne_of_mem : ∀ c ∈ alphabet, c ≠ '=' := List.forall_iff_forall_mem.mp (by decide)

lemma body_append {cs : List Char} (h : ∀ c ∈ cs, c ∈ alphabet) (k : ℕ) :
    body (cs ++ List.replicate k '=') = cs := by
  have hcs : cs.reverse.dropWhile (· = '=') = cs.reverse := by
    cases hr : cs.reverse with
    | nil => rfl
    | cons c rest =>
      have hmem : c ∈ cs := by
        rw [← List.mem_reverse, hr]
        exact List.mem_cons_self
      rw [List.dropWhile_cons_of_neg (by simpa using ne_of_mem c (h c hmem))]
  rw [body, List.reverse_append, List.reverse_replicate,
    List.dropWhile_append_of_pos (by simp), hcs, List.reverse_reverse]

lemma eq_body_append (cs : List Char) :
    cs = body cs ++ List.replicate (cs.length - (body cs).length) '=' := by
  have hsplit : cs = body cs ++ (cs.reverse.takeWhile (· = '=')).reverse := by
    rw [body, ← List.reverse_append, List.takeWhile_append_dropWhile, List.reverse_reverse]
  have hsigns : (cs.reverse.takeWhile (· = '=')).reverse =
      List.replicate (cs.length - (body cs).length) '=' := by
    refine List.eq_replicate_iff.mpr ⟨?_, fun c hc => ?_⟩
    · have := congrArg List.length hsplit
      rw [List.length_append] at this
      omega
    · simpa using List.all_eq_true.mp List.all_takeWhile c (List.mem_reverse.mp hc)
  rw [← hsigns]
  exact hsplit

/-! ### Texts -/

lemma decode_eq (text : String) : decode text =
    if text.toList.any fun c => 127 < c.toNat then .error .textNotAscii
    else if text.toList.length % 8 ≠ 0 then .error .textPadding
    else (body text.toList).mapM digit >>= fun values =>
      if text.toList.length - (body text.toList).length ∉ [0, 1, 3, 4, 6] then .error .textPadding
      else .ok (bytes (values.flatMap (bits 5))) := by
  by_cases hascii : (text.toList.any fun c => 127 < c.toNat) = true
  · rw [decode, if_pos hascii, if_pos hascii]
    rfl
  rw [decode, if_neg hascii, if_neg hascii]
  by_cases hwhole : text.toList.length % 8 ≠ 0
  · rw [if_pos hwhole, if_pos hwhole]
    rfl
  rw [if_neg hwhole, if_neg hwhole]
  refine bind_congr fun values => ?_
  split_ifs <;> rfl

/-- What a text is read as depends on its digits; the equals signs behind them fill up the last
eight characters. -/
lemma decode_eq_ok_iff {text : String} {bs : Bytes} : decode text = .ok bs ↔
    ∃ (cs : List Char) (k : ℕ) (values : List ℕ), text.toList = cs ++ List.replicate k '=' ∧
      (cs.length + k) % 8 = 0 ∧ k ∈ [0, 1, 3, 4, 6] ∧ cs.mapM digit = .ok values ∧
        bytes (values.flatMap (bits 5)) = bs := by
  rw [decode_eq]
  constructor
  · intro h
    have hbody := eq_body_append text.toList
    have hlen := congrArg List.length hbody
    rw [List.length_append, List.length_replicate] at hlen
    split at h
    · cases h
    split at h
    · cases h
    next hwhole =>
      obtain ⟨values, hvalues, h⟩ := Outcome.bind_eq_ok.mp h
      split_ifs at h with hk
      rw [Except.ok.injEq] at h
      exact ⟨_, _, values, hbody, by omega, hk, hvalues, h⟩
  · rintro ⟨cs, k, values, htext, hwhole, hk, hvalues, rfl⟩
    have hcs : ∀ c ∈ cs, c ∈ alphabet := fun c hc =>
      (char_of_digit (Outcome.exists_ok_of_mapM hvalues hc).choose_spec).1
    have hascii : ¬ (text.toList.any fun c => 127 < c.toNat) = true := by
      rw [htext, List.any_eq_true]
      rintro ⟨c, hc, hbig⟩
      rw [decide_eq_true_eq] at hbig
      rcases List.mem_append.mp hc with hc | hc
      · exact ascii_of_mem c (List.mem_cons_of_mem _ (hcs c hc)) hbig
      · rw [List.eq_of_mem_replicate hc] at hbig
        exact ascii_of_mem '=' List.mem_cons_self hbig
    have hlen : text.toList.length = cs.length + k := by
      rw [htext, List.length_append, List.length_replicate]
    have hbody : body text.toList = cs := by rw [htext, body_append hcs]
    rw [if_neg hascii, hbody, hlen, if_neg (not_not.mpr hwhole), hvalues, Outcome.ok_bind,
      Nat.add_sub_cancel_left, if_neg (not_not.mpr hk)]

lemma digit_error {c : Char} {f : Failure} (h : digit c = .error f) : f = .textDigit := by
  unfold digit at h
  split at h
  · cases h
  · cases h
    rfl

lemma decode_error {text : String} {f : Failure} (h : decode text = .error f) :
    f.kind = .invalidValue := by
  rw [decode_eq] at h
  split at h
  · cases h
    rfl
  split at h
  · cases h
    rfl
  rcases Outcome.bind_eq_error.mp h with h | ⟨values, -, h⟩
  · obtain ⟨c, -, hc⟩ := Outcome.exists_error_of_mapM h
    rw [digit_error hc]
    rfl
  · split_ifs at h
    cases h
    rfl

/-- The characters of a text without the equals signs. -/
def chars (bs : Bytes) : List Char := (groupsOf 5 (stream bs)).map char

lemma encode_toList (bs : Bytes) :
    (encode bs).toList = chars bs ++ List.replicate ((8 - (chars bs).length % 8) % 8) '=' := by
  rw [encode, String.toList_ofList, chars, stream, padding]

lemma head?_encode (b : UInt8) (bs : Bytes) :
    (encode (b :: bs)).toList.head? = some (char ((bits 8 b.toNat).take 5)) := by
  have hne : stream (b :: bs) ≠ [] := by
    rw [← List.length_pos_iff, length_stream, List.length_cons]
    omega
  have htake : (stream (b :: bs)).take 5 = (bits 8 b.toNat).take 5 := by
    rw [stream_cons, List.take_append_of_le_length (by simp)]
  rw [encode_toList, chars, groupsOf_of_ne_nil (by omega) hne, htake, List.map_cons,
    List.cons_append, List.head?_cons]

lemma length_chars (bs : Bytes) : (chars bs).length = (8 * bs.length + 4) / 5 := by
  rw [chars, List.length_map, length_groupsOf (by omega), length_stream]
  omega

lemma mapM_digit_chars (bs : Bytes) : (chars bs).mapM digit =
    .ok ((groupsOf 5 (stream bs)).map fun g => value (filled g)) := by
  rw [Outcome.mapM_eq_ok, chars, List.forall₂_map_left_iff, List.forall₂_map_right_iff,
    List.forall₂_same]
  exact fun g hg => digit_char (length_le_of_mem_groupsOf hg)

lemma bytes_values (bs : Bytes) :
    bytes (((groupsOf 5 (stream bs)).map fun g => value (filled g)).flatMap (bits 5)) = bs := by
  have hfilled : ∀ g ∈ groupsOf 5 (stream bs), bits 5 (value (filled g)) = filled g := by
    intro g hg
    have h := bits_value (filled g)
    rwa [length_filled (length_le_of_mem_groupsOf hg)] at h
  obtain ⟨k, hk, hsum⟩ := flatMap_filled (stream bs)
  rw [List.flatMap_map, List.flatMap_congr hfilled, hsum, bytes_append]
  rw [List.length_replicate]
  omega

/-- **What is written is read back.** -/
theorem decode_encode (bs : Bytes) : decode (encode bs) = .ok bs := by
  have hchars := length_chars bs
  refine decode_eq_ok_iff.mpr
    ⟨_, _, _, encode_toList bs, by omega, ?_, mapM_digit_chars bs, bytes_values bs⟩
  -- 0, 2, 4, 5 and 7 characters are all that the last group can have
  simp only [hchars, List.mem_cons, List.not_mem_nil, or_false]
  omega

end RingBallot.Base32
