import RingBallot.Proofs.Signature.Ring.Basic
import RingBallot.Proofs.Signature.Wire

/-!
Which components of a ring signature the check of ranges looks at. The walk goes over pairs of a
share and a response, so it sees both lists as far as they go together: there it finds the first
component out of range, and a component without a partner it does not see.
-/

namespace RingBallot.RingSignature

variable {order : ℤ} {σ : RingSignature}

structure InRange (order : ℤ) (σ : RingSignature) : Prop where
  shares : ∀ x ∈ σ.c, 0 ≤ x ∧ x < order
  responses : ∀ x ∈ σ.r, 0 ≤ x ∧ x < order

/-- The first `k` shares and the first `l` responses. -/
def initial (σ : RingSignature) (k l : ℕ) : RingSignature :=
  ⟨σ.keyImage, σ.c.take k, σ.r.take l⟩

/-- A component is out of range and none before it is. The response of a member comes after its
share and before the share of the next member. -/
inductive FirstOutside (order : ℤ) (σ : RingSignature) : Component → Prop
  | challenge {i : ℕ} {c : ℤ} (hc : σ.c[i]? = some c) (outside : ¬ (0 ≤ c ∧ c < order))
      (before : (σ.initial i i).InRange order) : FirstOutside order σ (.challenge i)
  | response {i : ℕ} {r : ℤ} (hr : σ.r[i]? = some r) (outside : ¬ (0 ≤ r ∧ r < order))
      (before : (σ.initial (i + 1) i).InRange order) : FirstOutside order σ (.response i)

lemma initial_succ_inRange_iff {i : ℕ} {c : ℤ} (hc : σ.c[i]? = some c) :
    (σ.initial (i + 1) i).InRange order ↔
      (0 ≤ c ∧ c < order) ∧ (σ.initial i i).InRange order := by
  have hshares : (∀ x ∈ σ.c.take (i + 1), 0 ≤ x ∧ x < order) ↔
      (0 ≤ c ∧ c < order) ∧ ∀ x ∈ σ.c.take i, 0 ≤ x ∧ x < order := by
    rw [List.take_add_one, hc, Option.toList_some, List.forall_mem_append,
      List.forall_mem_singleton, and_comm]
  constructor
  · intro h
    obtain ⟨hcr, hbefore⟩ := hshares.mp h.shares
    exact ⟨hcr, hbefore, h.responses⟩
  · rintro ⟨hcr, h⟩
    exact ⟨hshares.mpr ⟨hcr, h.shares⟩, h.responses⟩

/-! ### Pairs -/

def ofPairs (image : Point) (l : List (ℤ × ℤ)) : RingSignature :=
  ⟨image, l.map Prod.fst, l.map Prod.snd⟩

variable {image : Point} {l pre post : List (ℤ × ℤ)}

lemma ofPairs_inRange_iff : (ofPairs image l).InRange order ↔
    ∀ x ∈ l, (0 ≤ x.1 ∧ x.1 < order) ∧ (0 ≤ x.2 ∧ x.2 < order) := by
  constructor
  · intro h x hx
    exact ⟨h.shares _ (List.mem_map_of_mem hx), h.responses _ (List.mem_map_of_mem hx)⟩
  · intro h
    exact ⟨List.forall_mem_map.mpr fun x hx => (h x hx).1,
      List.forall_mem_map.mpr fun x hx => (h x hx).2⟩

lemma initial_ofPairs (k : ℕ) :
    (ofPairs image l).initial k k = ofPairs image (l.take k) := by
  simp only [initial, ofPairs, List.map_take]

lemma getElem?_ofPairs {i : ℕ} {x : ℤ × ℤ} (hx : l[i]? = some x) :
    (ofPairs image l).c[i]? = some x.1 ∧ (ofPairs image l).r[i]? = some x.2 := by
  simp only [ofPairs, List.getElem?_map, hx, Option.map_some, and_self]

lemma firstOutside_append (hpre : (ofPairs image pre).InRange order) (i : ℕ) :
    firstOutside order i (pre ++ l) = firstOutside order (i + pre.length) l := by
  rw [ofPairs_inRange_iff] at hpre
  induction pre generalizing i with
  | nil => rfl
  | cons x rest ih =>
    obtain ⟨hx, hrest⟩ := List.forall_mem_cons.mp hpre
    have hc : ¬ ¬ (0 ≤ x.1 ∧ x.1 ≤ order - 1) := by omega
    have hr : ¬ ¬ (0 ≤ x.2 ∧ x.2 ≤ order - 1) := by omega
    rw [List.cons_append, firstOutside, if_neg hc, if_neg hr, ih hrest, List.length_cons]
    congr 1
    omega

lemma firstOutside_cons {x : ℤ × ℤ} (hx : ¬ ((0 ≤ x.1 ∧ x.1 < order) ∧ (0 ≤ x.2 ∧ x.2 < order)))
    (i : ℕ) : firstOutside order i (x :: l) =
      some (if 0 ≤ x.1 ∧ x.1 < order then .response i else .challenge i) := by
  rw [firstOutside]
  split_ifs <;> first | rfl | omega

lemma firstOutside_of_getElem? {i : ℕ} {x : ℤ × ℤ} (hx : l[i]? = some x)
    (hpre : (ofPairs image (l.take i)).InRange order)
    (hout : ¬ ((0 ≤ x.1 ∧ x.1 < order) ∧ (0 ≤ x.2 ∧ x.2 < order))) :
    firstOutside order 0 l =
      some (if 0 ≤ x.1 ∧ x.1 < order then .response i else .challenge i) := by
  obtain ⟨hi, hget⟩ := List.getElem?_eq_some_iff.mp hx
  calc firstOutside order 0 l = firstOutside order 0 (l.take i ++ l.drop i) := by
        rw [List.take_append_drop]
    _ = firstOutside order i (x :: l.drop (i + 1)) := by
        rw [firstOutside_append hpre, List.length_take_of_le hi.le, Nat.zero_add,
          List.drop_eq_getElem_cons hi, hget]
    _ = _ := firstOutside_cons hout i

lemma exists_pair (h : ¬ (ofPairs image l).InRange order) : ∃ i x, l[i]? = some x ∧
    (ofPairs image (l.take i)).InRange order ∧
      ¬ ((0 ≤ x.1 ∧ x.1 < order) ∧ (0 ≤ x.2 ∧ x.2 < order)) := by
  induction l with
  | nil => exact absurd ⟨nofun, nofun⟩ h
  | cons y rest ih =>
    by_cases hy : (0 ≤ y.1 ∧ y.1 < order) ∧ (0 ≤ y.2 ∧ y.2 < order)
    · rw [ofPairs_inRange_iff, List.forall_mem_cons, not_and] at h
      obtain ⟨i, x, hx, hpre, hout⟩ := ih fun hrest => h hy (ofPairs_inRange_iff.mp hrest)
      refine ⟨i + 1, x, hx, ?_, hout⟩
      rw [ofPairs_inRange_iff, List.take_succ_cons, List.forall_mem_cons]
      exact ⟨hy, ofPairs_inRange_iff.mp hpre⟩
    · exact ⟨0, y, rfl, ⟨nofun, nofun⟩, hy⟩

lemma firstOutside_eq_some_of {x : Component} (h : FirstOutside order (ofPairs image l) x) :
    firstOutside order 0 l = some x := by
  cases h with
  | @challenge i c hc outside before =>
    simp only [ofPairs, List.getElem?_map, Option.map_eq_some_iff] at hc
    obtain ⟨y, hy, rfl⟩ := hc
    rw [initial_ofPairs] at before
    rw [firstOutside_of_getElem? hy before fun h => outside h.1, if_neg outside]
  | @response i r hr outside before =>
    simp only [ofPairs, List.getElem?_map, Option.map_eq_some_iff] at hr
    obtain ⟨y, hy, rfl⟩ := hr
    rw [initial_succ_inRange_iff (getElem?_ofPairs hy).1, initial_ofPairs] at before
    rw [firstOutside_of_getElem? hy before.2 fun h => outside h.2, if_pos before.1]

lemma exists_firstOutside (h : ¬ (ofPairs image l).InRange order) :
    ∃ x, FirstOutside order (ofPairs image l) x := by
  obtain ⟨i, y, hy, hpre, hout⟩ := exists_pair h
  obtain ⟨hc, hr⟩ := getElem?_ofPairs hy
  rw [← initial_ofPairs] at hpre
  by_cases hcr : 0 ≤ y.1 ∧ y.1 < order
  · exact ⟨_, .response hr (fun h => hout ⟨hcr, h⟩) ((initial_succ_inRange_iff hc).mpr ⟨hcr, hpre⟩)⟩
  · exact ⟨_, .challenge hc hcr hpre⟩

/-- **The walk finds the first component out of range.** -/
lemma firstOutside_eq_some_iff {x : Component} :
    firstOutside order 0 l = some x ↔ FirstOutside order (ofPairs image l) x := by
  refine ⟨fun h => ?_, firstOutside_eq_some_of⟩
  have hout : ¬ (ofPairs image l).InRange order := by
    rw [ofPairs_inRange_iff, ← firstOutside_eq_none_iff (i := 0), h]
    exact Option.some_ne_none x
  obtain ⟨y, hy⟩ := exists_firstOutside hout
  rw [firstOutside_eq_some_of hy, Option.some.injEq] at h
  exact h ▸ hy

/-! ### The check -/

lemma outside?_eq_some_iff {x : Component} :
    σ.outside? order = some x ↔ FirstOutside order σ.shortened x := by
  rw [shortened_eq]
  exact firstOutside_eq_some_iff

lemma outside?_eq_none_iff : σ.outside? order = none ↔ σ.shortened.InRange order := by
  rw [outside?, firstOutside_eq_none_iff, shortened_eq]
  exact ofPairs_inRange_iff.symm

lemma checkRange_eq_ok_iff : checkRange order σ = .ok () ↔ σ.shortened.InRange order := by
  rw [← outside?_eq_none_iff, checkRange]
  cases σ.outside? order with
  | none => exact iff_of_true rfl rfl
  | some x => exact iff_of_false nofun nofun

lemma checkRange_eq_error_iff {f : Failure} : checkRange order σ = .error f ↔
    ∃ x, f = .outOfRange x ∧ FirstOutside order σ.shortened x := by
  simp only [← outside?_eq_some_iff, checkRange]
  cases σ.outside? order with
  | none => exact iff_of_false nofun nofun
  | some x =>
    constructor
    · intro h
      cases h
      exact ⟨x, rfl, rfl⟩
    · rintro ⟨y, rfl, hy⟩
      cases hy
      rfl

/-- **The check of ranges covers both lists as far as they go together**, and refuses a signature
for the first component out of range there. So it covers all components of a signature with a
response for every share. -/
theorem checkRange_covers_shortened (order : ℤ) (σ : RingSignature) :
    (checkRange order σ = .ok () ↔ σ.shortened.InRange order) ∧
      (∀ f, checkRange order σ = .error f ↔
        ∃ x, f = .outOfRange x ∧ FirstOutside order σ.shortened x) ∧
      (σ.c.length = σ.r.length → (checkRange order σ = .ok () ↔ σ.InRange order)) := by
  refine ⟨checkRange_eq_ok_iff, fun f => checkRange_eq_error_iff, fun hlen => ?_⟩
  rw [checkRange_eq_ok_iff, shortened_eq_self_iff.mpr hlen]

/-- A share without a response is not looked at. -/
theorem surplus_share_unchecked :
    checkRange 7 ⟨.affine 12 3, [0, 7], [0]⟩ = .ok () ∧
      ¬ InRange 7 ⟨.affine 12 3, [0, 7], [0]⟩ := by
  refine ⟨by decide, fun h => ?_⟩
  have := h.shares 7 (by simp)
  omega

/-- Both components of the last member are out of range, and its share is the one that is named. -/
theorem checkRange_covers_shortened_seven :
    checkRange 7 ⟨.infinity, [0, 6, -1], [3, 0, 7]⟩ = .error (.outOfRange (.challenge 2)) ∧
      FirstOutside 7 (shortened ⟨.infinity, [0, 6, -1], [3, 0, 7]⟩) (.challenge 2) ∧
      ¬ InRange 7 ⟨.infinity, [0, 6, -1], [3, 0, 7]⟩ := by
  have hcheck : checkRange 7 ⟨.infinity, [0, 6, -1], [3, 0, 7]⟩ =
      .error (.outOfRange (.challenge 2)) := by decide
  obtain ⟨-, herror, hcover⟩ := checkRange_covers_shortened 7 ⟨.infinity, [0, 6, -1], [3, 0, 7]⟩
  obtain ⟨x, hx, hfirst⟩ := (herror _).mp hcheck
  cases hx
  refine ⟨hcheck, hfirst, fun h => ?_⟩
  rw [← hcover rfl, hcheck] at h
  cases h

end RingBallot.RingSignature
