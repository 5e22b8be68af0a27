/-!
Lists cut into runs of one length, the last run possibly shorter.
-/

namespace RingBallot

/-- The list in runs of `n`. There are no runs of length zero. -/
def groupsOf {α : Type} (n : Nat) (l : List α) : List (List α) :=
  if l = [] ∨ n = 0 then [] else l.take n :: groupsOf n (l.drop n)
termination_by l.length
decreasing_by
  rename_i h
  have : 0 < l.length := List.length_pos_iff.2 fun h0 => h (Or.inl h0)
  simp only [List.length_drop]
  omega

@[simp] theorem groupsOf_nil {α : Type} (n : Nat) : groupsOf n ([] : List α) = [] := by
  rw [groupsOf]; simp

theorem groupsOf_append {α : Type} {n : Nat} {a l : List α} (hn : 0 < n) (ha : a.length = n) :
    groupsOf n (a ++ l) = a :: groupsOf n l := by
  have hne : ¬ (a ++ l = [] ∨ n = 0) := by
    rintro (h | h)
    · rw [(List.append_eq_nil_iff.1 h).1] at ha; simp at ha; omega
    · omega
  rw [groupsOf, if_neg hne, ← ha, List.take_left, List.drop_left]

theorem flatten_groupsOf {α : Type} {n : Nat} (hn : 0 < n) (l : List α) :
    (groupsOf n l).flatten = l := by
  induction h : l.length using Nat.strongRecOn generalizing l with
  | _ k ih =>
    rw [groupsOf]
    split
    · rename_i h0
      rcases h0 with rfl | h0
      · rfl
      · omega
    · rename_i h0
      have : 0 < l.length := List.length_pos_iff.2 fun e => h0 (Or.inl e)
      rw [List.flatten_cons, ih _ (by simp only [List.length_drop]; omega) _ rfl,
        List.take_append_drop]

theorem groupsOf_of_ne_nil {α : Type} {n : Nat} {l : List α} (hn : 0 < n) (hl : l ≠ []) :
    groupsOf n l = l.take n :: groupsOf n (l.drop n) := by
  have h : ¬ (l = [] ∨ n = 0) := by
    rintro (h | h)
    · exact hl h
    · omega
  rw [groupsOf, if_neg h]

theorem groupsOf_of_length_le {α : Type} {n : Nat} {l : List α} (hl : l ≠ []) (h : l.length ≤ n) :
    groupsOf n l = [l] := by
  have hpos := List.length_pos_iff.2 hl
  rw [groupsOf_of_ne_nil (by omega) hl, List.take_of_length_le h, List.drop_of_length_le h,
    groupsOf_nil]

theorem length_le_of_mem_groupsOf {α : Type} {n : Nat} {l g : List α} (h : g ∈ groupsOf n l) :
    g.length ≤ n := by
  induction l using groupsOf.induct n with
  | case1 l h0 =>
    rw [groupsOf, if_pos h0] at h
    cases h
  | case2 l h0 ih =>
    rw [groupsOf, if_neg h0] at h
    rcases List.mem_cons.1 h with rfl | h
    · exact List.length_take_le n l
    · exact ih h

theorem length_of_mem_groupsOf {α : Type} {n : Nat} {l g : List α} (hl : n ∣ l.length)
    (h : g ∈ groupsOf n l) : g.length = n := by
  induction l using groupsOf.induct n with
  | case1 l h0 =>
    rw [groupsOf, if_pos h0] at h
    cases h
  | case2 l h0 ih =>
    have hpos : 0 < l.length := List.length_pos_iff.2 fun e => h0 (Or.inl e)
    have hle := Nat.le_of_dvd hpos hl
    rw [groupsOf, if_neg h0] at h
    rcases List.mem_cons.1 h with rfl | h
    · exact List.length_take_of_le hle
    · refine ih ?_ h
      rw [List.length_drop]
      exact Nat.dvd_sub hl (Nat.dvd_refl n)

theorem groupsOf_flatten {α : Type} {n : Nat} (hn : 0 < n) {gs : List (List α)}
    (h : ∀ g ∈ gs, g.length = n) : groupsOf n gs.flatten = gs := by
  induction gs with
  | nil => exact groupsOf_nil n
  | cons g rest ih =>
    rw [List.flatten_cons, groupsOf_append hn (h g List.mem_cons_self),
      ih fun g' hg' => h g' (List.mem_cons_of_mem _ hg')]

theorem length_groupsOf {α : Type} {n : Nat} (hn : 0 < n) (l : List α) :
    (groupsOf n l).length = (l.length + n - 1) / n := by
  induction l using groupsOf.induct n with
  | case1 l h0 =>
    obtain rfl : l = [] := h0.resolve_right (by omega)
    simp only [groupsOf_nil, List.length_nil]
    exact (Nat.div_eq_of_lt (by omega)).symm
  | case2 l h0 ih =>
    have hl : l ≠ [] := fun h => h0 (.inl h)
    have hpos := List.length_pos_iff.2 hl
    rw [groupsOf_of_ne_nil hn hl, List.length_cons, ih, List.length_drop]
    rcases Nat.le_total l.length n with h | h
    · rw [Nat.sub_eq_zero_of_le h, Nat.div_eq_of_lt (by omega),
        show l.length + n - 1 = l.length - 1 + n by omega, Nat.add_div_right _ hn,
        Nat.div_eq_of_lt (by omega)]
    · rw [show l.length + n - 1 = l.length - n + n - 1 + n by omega, Nat.add_div_right _ hn]

end RingBallot
