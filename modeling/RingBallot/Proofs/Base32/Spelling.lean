import Mathlib.Algebra.BigOperators.Ring.List
import Mathlib.Data.Fintype.BigOperators
import Mathlib.Data.Set.Card
import Mathlib.Data.Vector.Basic
import RingBallot.Proofs.Base32

/-!
All texts that are read as given bytes. The last character of a text can have bits that belong to no
byte. Writing sets them to zero, and reading takes no notice of them, so the texts of the same bytes
are as many as there are values of these bits.
-/

namespace RingBallot.Base32

open scoped CorePower

/-- The text of a row of bits, five to a character. -/
def ofBits (l : List Bool) : String :=
  String.ofList ((groupsOf 5 l).map char ++ padding (groupsOf 5 l).length)

/-- The number of bits in the last character of the text of `n` bytes that belong to no byte. -/
def spare (n : ℕ) : ℕ := 2 * n % 5

/-! ### Rows of whole characters -/

section Rows

variable {l l' : List Bool}

lemma flatMap_bits_value (hl : 5 ∣ l.length) :
    ((groupsOf 5 l).map value).flatMap (bits 5) = l := by
  have hbits : ∀ g ∈ groupsOf 5 l, bits 5 (value g) = g := fun g hg => by
    have h := bits_value g
    rwa [length_of_mem_groupsOf hl hg] at h
  rw [List.flatMap_map, List.flatMap_congr hbits, List.flatMap_id', flatten_groupsOf (by omega)]

lemma mapM_digit_char (hl : 5 ∣ l.length) :
    ((groupsOf 5 l).map char).mapM digit = .ok ((groupsOf 5 l).map value) := by
  rw [Outcome.mapM_eq_ok, List.forall₂_map_left_iff, List.forall₂_map_right_iff,
    List.forall₂_same]
  intro g hg
  have hlen := length_of_mem_groupsOf hl hg
  rw [digit_char hlen.le, filled, hlen, Nat.sub_self, List.replicate_zero, List.append_nil]

lemma body_ofBits (hl : 5 ∣ l.length) : body (ofBits l).toList = (groupsOf 5 l).map char := by
  have hchars : ∀ c ∈ (groupsOf 5 l).map char, c ∈ alphabet := fun c hc => by
    obtain ⟨v, hv⟩ := Outcome.exists_ok_of_mapM (mapM_digit_char hl) hc
    exact (char_of_digit hv).1
  rw [ofBits, String.toList_ofList, padding, body_append hchars]

lemma ofBits_injective (hl : 5 ∣ l.length) (hl' : 5 ∣ l'.length) (h : ofBits l = ofBits l') :
    l = l' := by
  have hvalues : (groupsOf 5 l).map value = (groupsOf 5 l').map value := by
    rw [← Except.ok.injEq (ε := Failure), ← mapM_digit_char hl, ← mapM_digit_char hl',
      ← body_ofBits hl, ← body_ofBits hl', h]
  rw [← flatMap_bits_value hl, hvalues, flatMap_bits_value hl']

lemma decode_ofBits {k : ℕ} (hl : l.length = 5 * k) (hk : k % 8 ∈ [0, 2, 4, 5, 7]) :
    decode (ofBits l) = .ok (bytes l) := by
  have hdvd : 5 ∣ l.length := ⟨k, hl⟩
  have hchars : ((groupsOf 5 l).map char).length = k := by
    rw [List.length_map, length_groupsOf (by omega), hl]
    omega
  refine decode_eq_ok_iff.mpr ⟨_, (8 - k % 8) % 8, _, ?_, ?_, ?_, mapM_digit_char hdvd, ?_⟩
  · rw [ofBits, String.toList_ofList, padding, ← hchars, List.length_map]
  · omega
  · simp only [List.mem_cons, List.not_mem_nil, or_false] at hk ⊢
    omega
  · rw [flatMap_bits_value hdvd]

/-- Every text that is read is that of a row of whole characters. -/
lemma exists_bits_of_decode {text : String} {bs : Bytes} (h : decode text = .ok bs) :
    ∃ (l : List Bool) (k : ℕ), l.length = 5 * k ∧ k % 8 ∈ [0, 2, 4, 5, 7] ∧ text = ofBits l ∧
      bytes l = bs := by
  obtain ⟨cs, k, values, htext, hwhole, hk, hvalues, hbytes⟩ := decode_eq_ok_iff.mp h
  have hdigits := Outcome.mapM_eq_ok.mp hvalues
  have hgroups : groupsOf 5 (values.flatMap (bits 5)) = values.map (bits 5) := by
    rw [List.flatMap_def]
    exact groupsOf_flatten (by omega) (List.forall_mem_map.mpr fun v _ => length_bits 5 v)
  have hchars : (values.map (bits 5)).map char = cs := by
    rw [List.map_map, ← List.forall₂_eq_eq_eq, List.forall₂_map_left_iff]
    exact hdigits.flip.imp fun v c hv => (char_of_digit hv).2
  have hlen := hdigits.length_eq
  simp only [List.mem_cons, List.not_mem_nil, or_false] at hk
  refine ⟨values.flatMap (bits 5), values.length, ?_, ?_, ?_, hbytes⟩
  · simp [List.length_flatMap, Nat.mul_comm]
  · simp only [List.mem_cons, List.not_mem_nil, or_false]
    omega
  · rw [← String.ofList_toList (s := text), htext, ofBits, hgroups, hchars, padding,
      List.length_map, show (8 - values.length % 8) % 8 = k by omega]

end Rows

/-! ### Texts of bytes -/

lemma eq_stream_append (l : List Bool) : ∃ u, u.length < 8 ∧ l = stream (bytes l) ++ u := by
  induction l using groupsOf.induct 8 with
  | case1 l h0 =>
    obtain rfl : l = [] := h0.resolve_right (by omega)
    exact ⟨[], by simp, by simp [bytes, stream]⟩
  | case2 l h0 ih =>
    rcases Nat.lt_or_ge l.length 8 with hl | hl
    · have hnone := bytes_append [] hl
      rw [stream_nil, List.nil_append] at hnone
      exact ⟨l, hl, by rw [hnone, stream_nil, List.nil_append]⟩
    · obtain ⟨u, hu, hrest⟩ := ih
      have hlen : (l.take 8).length = 8 := List.length_take_of_le hl
      have hbits : bits 8 (UInt8.ofNat (value (l.take 8))).toNat = l.take 8 := by
        have hlt := value_lt (l.take 8)
        have hval := bits_value (l.take 8)
        rw [hlen] at hlt hval
        rw [UInt8.toNat_ofNat_of_lt' hlt, hval]
      refine ⟨u, hu, ?_⟩
      calc l = l.take 8 ++ l.drop 8 := (List.take_append_drop 8 l).symm
        _ = l.take 8 ++ (stream (bytes (l.drop 8)) ++ u) := by rw [← hrest]
        _ = stream (bytes (l.take 8 ++ l.drop 8)) ++ u := by
            rw [bytes_cons hlen, stream_cons, hbits, List.append_assoc]
        _ = stream (bytes l) ++ u := by rw [List.take_append_drop]

/-- **A text is read as the bytes that it carries**, whatever the bits that belong to no byte. -/
theorem decode_eq_ok_iff_spare {text : String} {bs : Bytes} : decode text = .ok bs ↔
    ∃ u : List Bool, u.length = spare bs.length ∧ text = ofBits (stream bs ++ u) := by
  constructor
  · intro h
    obtain ⟨l, k, hl, hk, rfl, rfl⟩ := exists_bits_of_decode h
    obtain ⟨u, hu, hsplit⟩ := eq_stream_append l
    have hlen := congrArg List.length hsplit
    rw [List.length_append, length_stream, hl] at hlen
    simp only [List.mem_cons, List.not_mem_nil, or_false] at hk
    refine ⟨u, ?_, by rw [← hsplit]⟩
    unfold spare
    omega
  · rintro ⟨u, hu, rfl⟩
    unfold spare at hu
    have hlen : (stream bs ++ u).length = 5 * ((8 * bs.length + 4) / 5) := by
      rw [List.length_append, length_stream, hu]
      omega
    rw [decode_ofBits hlen, bytes_append bs (by omega)]
    simp only [List.mem_cons, List.not_mem_nil, or_false]
    omega

/-! ### The written text among them -/

section Written

variable {bs : Bytes} {u u' : List Bool}

lemma dvd_length_append (hu : u.length = spare bs.length) : 5 ∣ (stream bs ++ u).length := by
  unfold spare at hu
  rw [List.length_append, length_stream]
  omega

lemma ofBits_append_injective (hu : u.length = spare bs.length) (hu' : u'.length = spare bs.length)
    (h : ofBits (stream bs ++ u) = ofBits (stream bs ++ u')) : u = u' :=
  List.append_cancel_left (ofBits_injective (dvd_length_append hu) (dvd_length_append hu') h)

lemma char_filled {g : List Bool} (hg : g.length ≤ 5) : char (filled g) = char g := by
  rw [char, length_filled hg, Nat.sub_self, List.replicate_zero, List.append_nil, filled, char]

/-- Writing sets the spare bits to zero. -/
lemma encode_eq_ofBits (bs : Bytes) :
    encode bs = ofBits (stream bs ++ List.replicate (spare bs.length) false) := by
  have hfive : ∀ g ∈ (groupsOf 5 (stream bs)).map filled, g.length = 5 :=
    List.forall_mem_map.mpr fun g hg => length_filled (length_le_of_mem_groupsOf hg)
  obtain ⟨k, hk, hsum⟩ := flatMap_filled (stream bs)
  rw [List.flatMap_def] at hsum
  have hgroups : groupsOf 5 (stream bs ++ List.replicate k false) =
      (groupsOf 5 (stream bs)).map filled := by
    rw [← hsum, groupsOf_flatten (by omega) hfive]
  have hk' : k = spare bs.length := by
    have hdvd : 5 ∣ ((groupsOf 5 (stream bs)).map filled).flatten.length := by
      rw [List.length_flatten]
      exact List.dvd_sum (List.forall_mem_map.mpr fun g hg => dvd_of_eq (hfive g hg).symm)
    rw [hsum, List.length_append, length_stream, List.length_replicate] at hdvd
    unfold spare
    omega
  have hchars : ((groupsOf 5 (stream bs)).map filled).map char =
      (groupsOf 5 (stream bs)).map char := by
    rw [List.map_map]
    exact List.map_congr_left fun g hg => char_filled (length_le_of_mem_groupsOf hg)
  rw [← hk', ofBits, hgroups, hchars, List.length_map, encode, stream, List.length_map]

/-- There are as many texts of some bytes as values of the spare bits. -/
theorem encard_texts (bs : Bytes) :
    {text | decode text = .ok bs}.encard = 2 ^ spare bs.length := by
  have hset : {text | decode text = .ok bs} =
      (fun u => ofBits (stream bs ++ u)) '' {u : List Bool | u.length = spare bs.length} := by
    ext text
    rw [Set.mem_ofPred_eq, decode_eq_ok_iff_spare, Set.mem_image]
    simp only [Set.mem_ofPred_eq, eq_comm]
  have hinj : Set.InjOn (fun u => ofBits (stream bs ++ u))
      {u : List Bool | u.length = spare bs.length} :=
    fun u hu u' hu' h => ofBits_append_injective hu hu' h
  rw [hset, hinj.encard_image]
  calc {u : List Bool | u.length = spare bs.length}.encard
      = ENat.card (List.Vector Bool (spare bs.length)) := rfl
    _ = 2 ^ spare bs.length := by
        rw [ENat.card_eq_coe_fintype_card, card_vector, Fintype.card_bool]
        norm_cast

end Written

end RingBallot.Base32
