import Mathlib.Data.List.Flatten
import RingBallot.Proofs.Curve.Encoding
import RingBallot.Signature.Challenge

/-!
What the challenge of a ring binds. The message is hashed without its length and in front of the
points, each of which takes 33 bytes, so the same bytes can be read with another split: points that
move into the message leave a smaller ring. There is no other way to read them. For rings of one
size the message and the written forms of the points are determined, and modulo a prime so are the
points.
-/

namespace RingBallot.Challenge

open RingBallot.Curve

variable {E : Curve} {m m' : Message} {L R L' R' : List Point} {bs bs' : Bytes}

/-! ### Runs of one length -/

section Runs

variable {α : Type} {n : ℕ} {cs cs' : List (List α)}

lemma length_flatten_of_forall (h : ∀ c ∈ cs, c.length = n) :
    cs.flatten.length = n * cs.length := by
  induction cs with
  | nil => simp
  | cons c rest ih =>
    rw [List.flatten_cons, List.length_append, h c (by simp), ih fun d hd => h d (by simp [hd]),
      List.length_cons, Nat.mul_succ, Nat.add_comm]

lemma flatten_inj_of_forall (h : ∀ c ∈ cs, c.length = n) (h' : ∀ c ∈ cs', c.length = n)
    (hlen : cs.length = cs'.length) : cs.flatten = cs'.flatten ↔ cs = cs' := by
  have hmap : cs.map List.length = cs'.map List.length := by
    rw [List.map_eq_replicate_iff.mpr h, List.map_eq_replicate_iff.mpr h', hlen]
  rw [List.eq_iff_flatten_eq, and_iff_left hmap]

/-- Runs that stand behind texts of any length are told apart from the end. -/
lemma append_flatten_eq_iff (h : ∀ c ∈ cs, c.length = n) (h' : ∀ c ∈ cs', c.length = n)
    (hle : cs'.length ≤ cs.length) {t t' : List α} :
    t ++ cs.flatten = t' ++ cs'.flatten ↔
      t' = t ++ (cs.take (cs.length - cs'.length)).flatten ∧
        cs' = cs.drop (cs.length - cs'.length) := by
  set k := cs.length - cs'.length with hk
  have hdrop : ∀ c ∈ cs.drop k, c.length = n := fun c hc => h c (List.mem_of_mem_drop hc)
  have hlen : cs'.length = (cs.drop k).length := by rw [List.length_drop]; omega
  have hcs : cs.flatten = (cs.take k).flatten ++ (cs.drop k).flatten := by
    rw [← List.flatten_append, List.take_append_drop]
  rw [hcs, ← List.append_assoc, eq_comm]
  constructor
  · intro heq
    have hlast : cs'.flatten.length = (cs.drop k).flatten.length := by
      rw [length_flatten_of_forall h', length_flatten_of_forall hdrop, hlen]
    obtain ⟨hfront, hback⟩ := List.append_inj' heq hlast
    exact ⟨hfront, (flatten_inj_of_forall h' hdrop hlen).mp hback⟩
  · rintro ⟨rfl, hback⟩
    rw [← hback]

end Runs

/-! ### The bytes of a challenge -/

lemma input_eq_ok_iff : input E m L R = .ok bs ↔
    ∃ text codes, m.toBytes = .ok text ∧ (L ++ R).mapM E.compress = .ok codes ∧
      text ++ codes.flatten = bs := by
  unfold input
  rw [List.mapM_append]
  constructor
  · intro h
    obtain ⟨text, htext, h⟩ := Outcome.bind_eq_ok.mp h
    obtain ⟨left, hleft, h⟩ := Outcome.bind_eq_ok.mp h
    obtain ⟨right, hright, h⟩ := Outcome.bind_eq_ok.mp h
    cases h
    refine ⟨text, left ++ right, htext, ?_, by simp⟩
    rw [hleft, hright]
    rfl
  · rintro ⟨text, codes, htext, hcodes, rfl⟩
    obtain ⟨left, hleft, h⟩ := Outcome.bind_eq_ok.mp hcodes
    obtain ⟨right, hright, h⟩ := Outcome.bind_eq_ok.mp h
    cases h
    simp [htext, hleft, hright]

lemma length_of_mapM_compress {Ps : List Point} {codes : List Bytes}
    (h : Ps.mapM E.compress = .ok codes) :
    codes.length = Ps.length ∧ ∀ c ∈ codes, c.length = 33 :=
  ⟨(Outcome.mapM_eq_ok.mp h).length_eq.symm,
    Outcome.forall_of_mapM h fun _ _ _ hc => length_of_compress hc⟩

lemma mapM_eq_of_append (hlen : L.length = L'.length) {codes : List Bytes}
    (h : (L ++ R).mapM E.compress = .ok codes) (h' : (L' ++ R').mapM E.compress = .ok codes) :
    L.mapM E.compress = L'.mapM E.compress ∧ R.mapM E.compress = R'.mapM E.compress := by
  have htake := Outcome.mapM_take h L.length
  have htake' := Outcome.mapM_take h' L'.length
  have hdrop := Outcome.mapM_drop h L.length
  have hdrop' := Outcome.mapM_drop h' L'.length
  rw [List.take_left] at htake htake'
  rw [List.drop_left] at hdrop hdrop'
  rw [htake, htake', hdrop, hdrop', hlen]
  exact ⟨rfl, rfl⟩

/-- Modulo a prime, points are known from what they are written as. -/
lemma eq_of_mapM_compress_eq [Fact E.p.Prime] {Ps Ps' : List Point} {codes : List Bytes}
    (h : Ps.mapM E.compress = .ok codes) (h' : Ps'.mapM E.compress = .ok codes) : Ps = Ps' := by
  have hread {Qs : List Point} (hQs : Qs.mapM E.compress = .ok codes) :
      codes.mapM E.decompress = .ok Qs :=
    Outcome.mapM_of_mapM hQs fun _ _ _ hc => decompress_of_compress (contains_of_compress hc) hc
  have heq := hread h
  rw [hread h'] at heq
  exact (Except.ok.inj heq).symm

/-! ### Two readings of the same bytes -/

/-- The message `m'` is `m` with the first `k` points written behind it, and the points `Ps'` are
written as the other points are. -/
structure Absorbs (E : Curve) (k : ℕ) (m : Message) (Ps : List Point) (m' : Message)
    (Ps' : List Point) : Prop where
  message : ∃ text codes, m.toBytes = .ok text ∧ (Ps.take k).mapM E.compress = .ok codes ∧
    m'.toBytes = .ok (text ++ codes.flatten)
  points : Ps'.mapM E.compress = (Ps.drop k).mapM E.compress

lemma eq_iff_absorbs (h : input E m L R = .ok bs) (h' : input E m' L' R' = .ok bs')
    (hle : (L' ++ R').length ≤ (L ++ R).length) :
    bs = bs' ↔ Absorbs E ((L ++ R).length - (L' ++ R').length) m (L ++ R) m' (L' ++ R') := by
  obtain ⟨text, codes, htext, hcodes, rfl⟩ := input_eq_ok_iff.mp h
  obtain ⟨text', codes', htext', hcodes', rfl⟩ := input_eq_ok_iff.mp h'
  obtain ⟨hlen, h33⟩ := length_of_mapM_compress hcodes
  obtain ⟨hlen', h33'⟩ := length_of_mapM_compress hcodes'
  rw [append_flatten_eq_iff h33 h33' (by omega), hlen, hlen']
  generalize (L ++ R).length - (L' ++ R').length = k
  have hfront := Outcome.mapM_take hcodes k
  have hback := Outcome.mapM_drop hcodes k
  constructor
  · rintro ⟨rfl, rfl⟩
    exact ⟨⟨text, _, htext, hfront, htext'⟩, by rw [hcodes', hback]⟩
  · rintro ⟨⟨u, front, hu, hfront', hu'⟩, hpoints⟩
    rw [htext] at hu
    rw [hfront] at hfront'
    rw [htext'] at hu'
    rw [hcodes', hback] at hpoints
    cases hu
    cases hfront'
    exact ⟨Except.ok.inj hu', Except.ok.inj hpoints⟩

lemma Absorbs.toBytes_eq_iff {k : ℕ} {Ps Ps' : List Point} (h : Absorbs E k m Ps m' Ps')
    (hk : k ≤ Ps.length) : m.toBytes = m'.toBytes ↔ k = 0 := by
  obtain ⟨text, codes, htext, hcodes, htext'⟩ := h.message
  obtain ⟨hlen, h33⟩ := length_of_mapM_compress hcodes
  have hflat := length_flatten_of_forall h33
  rw [hlen, List.length_take, Nat.min_eq_left hk] at hflat
  rw [htext, htext', Except.ok.injEq, List.self_eq_append_right, ← List.length_eq_zero_iff]
  omega

/-- **What the challenge of a ring binds.** Two calls hash the same bytes exactly if the message of
the smaller ring is that of the larger one with the surplus of points, the left ones first, written
behind it, and the other points are written alike. So calls for rings of one size, or for one
message, agree in the message, in the size and in every written form, and modulo a prime in every
point. -/
theorem input_eq_iff_absorbs (h : input E m L R = .ok bs) (h' : input E m' L' R' = .ok bs')
    (hLR : L.length = R.length) (hLR' : L'.length = R'.length) (hle : L'.length ≤ L.length) :
    (bs = bs' ↔ Absorbs E (2 * (L.length - L'.length)) m (L ++ R) m' (L' ++ R')) ∧
      (bs = bs' → (m.toBytes = m'.toBytes ↔ L.length = L'.length)) ∧
      (bs = bs' → L.length = L'.length →
        L.mapM E.compress = L'.mapM E.compress ∧ R.mapM E.compress = R'.mapM E.compress) ∧
      (E.p.Prime → bs = bs' →
        L' ++ R' = (L ++ R).drop (2 * (L.length - L'.length)) ∧
          (L.length = L'.length → L = L' ∧ R = R')) := by
  have hsize : (L ++ R).length - (L' ++ R').length = 2 * (L.length - L'.length) := by
    rw [List.length_append, List.length_append]
    omega
  have hiff := eq_iff_absorbs h h' (by rw [List.length_append, List.length_append]; omega)
  rw [hsize] at hiff
  refine ⟨hiff, fun heq => ?_, fun heq hlen => ?_, fun hp heq => ?_⟩
  · rw [(hiff.mp heq).toBytes_eq_iff (by rw [List.length_append]; omega)]
    omega
  · obtain ⟨-, codes, -, hcodes, -⟩ := input_eq_ok_iff.mp h
    have hpoints := (hiff.mp heq).points
    rw [hlen, Nat.sub_self, Nat.mul_zero, List.drop_zero, hcodes] at hpoints
    exact mapM_eq_of_append hlen hcodes hpoints
  · have := Fact.mk hp
    obtain ⟨-, codes', -, hcodes', -⟩ := input_eq_ok_iff.mp h'
    have hpoints := eq_of_mapM_compress_eq hcodes' ((hiff.mp heq).points ▸ hcodes')
    refine ⟨hpoints, fun hlen => ?_⟩
    rw [hlen, Nat.sub_self, Nat.mul_zero, List.drop_zero] at hpoints
    obtain ⟨hL, hR⟩ := List.append_inj hpoints hlen.symm
    exact ⟨hL.symm, hR.symm⟩

/-- The first two of four points are hashed for the end of a message as well. Modulo a square even
rings of one size do not determine their points, of which two have one written form. -/
theorem input_read_twice :
    (curve19.p.Prime ∧
      input curve19 (.bytes []) [.affine 12 3, .affine 13 12] [.affine 13 7, .affine 15 4] =
        .ok (finiteCode 12 3 ++ finiteCode 13 12 ++ (finiteCode 13 7 ++ finiteCode 15 4)) ∧
      input curve19 (.bytes (finiteCode 12 3 ++ finiteCode 13 12)) [.affine 13 7] [.affine 15 4] =
        .ok (finiteCode 12 3 ++ finiteCode 13 12 ++ (finiteCode 13 7 ++ finiteCode 15 4)) ∧
      Message.toBytes (.bytes (finiteCode 12 3 ++ finiteCode 13 12)) ≠
        Message.toBytes (.bytes [])) ∧
    input curve49 (.bytes []) [.affine 0 0] [.affine 4 30] =
      .ok (finiteCode 0 0 ++ finiteCode 4 30) ∧
    input curve49 (.bytes []) [.affine 0 14] [.affine 4 30] =
      .ok (finiteCode 0 0 ++ finiteCode 4 30) :=
  ⟨⟨curve19_primeOrder.p_prime, by decide +kernel, by decide +kernel, by decide +kernel⟩,
    by decide +kernel, by decide +kernel⟩

/-- The other reading of the same bytes, and another vote of the same ring, which is not hashed for
the same. -/
theorem input_eq_iff_absorbs_curve19 :
    Absorbs curve19 2 (.bytes []) [.affine 12 3, .affine 13 12, .affine 13 7, .affine 15 4]
      (.bytes (finiteCode 12 3 ++ finiteCode 13 12)) [.affine 13 7, .affine 15 4] ∧
    ∃ yes no, input curve19 (.text "yes") [.affine 12 3] [.affine 13 7] = .ok yes ∧
      input curve19 (.text "nay") [.affine 12 3] [.affine 13 7] = .ok no ∧ yes ≠ no := by
  have hlarge : input curve19 (.bytes []) [.affine 12 3, .affine 13 12]
      [.affine 13 7, .affine 15 4] =
        .ok (finiteCode 12 3 ++ finiteCode 13 12 ++ (finiteCode 13 7 ++ finiteCode 15 4)) := by
    decide +kernel
  have hsmall : input curve19 (.bytes (finiteCode 12 3 ++ finiteCode 13 12)) [.affine 13 7]
      [.affine 15 4] =
        .ok (finiteCode 12 3 ++ finiteCode 13 12 ++ (finiteCode 13 7 ++ finiteCode 15 4)) := by
    decide +kernel
  have hyes : input curve19 (.text "yes") [.affine 12 3] [.affine 13 7] =
      .ok ([121, 101, 115] ++ (finiteCode 12 3 ++ finiteCode 13 7)) := by decide +kernel
  have hno : input curve19 (.text "nay") [.affine 12 3] [.affine 13 7] =
      .ok ([110, 97, 121] ++ (finiteCode 12 3 ++ finiteCode 13 7)) := by decide +kernel
  refine ⟨(input_eq_iff_absorbs hlarge hsmall rfl rfl (by decide)).1.mp rfl, _, _, hyes, hno,
    fun heq => ?_⟩
  have hsame := ((input_eq_iff_absorbs hyes hno rfl rfl (by decide)).2.1 heq).mpr rfl
  exact absurd hsame (by decide +kernel)

end RingBallot.Challenge
