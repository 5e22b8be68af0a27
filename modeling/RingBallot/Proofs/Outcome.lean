import Mathlib.Data.List.Forall2
import RingBallot.Failure

/-!
Operations that may fail, one after the other. A chain succeeds exactly when every link does, and
a list of operations exactly when every operation does. A failure is known by its kind.
-/

namespace RingBallot.Outcome

variable {α β γ : Type}

@[simp] lemma ok_bind (a : α) (f : α → Outcome β) : (Except.ok a : Outcome α) >>= f = f a := rfl

@[simp] lemma error_bind (e : Failure) (f : α → Outcome β) :
    (Except.error e : Outcome α) >>= f = .error e := rfl

@[simp] lemma pure_eq (a : α) : (pure a : Outcome α) = .ok a := rfl

lemma bind_eq_ok {x : Outcome α} {f : α → Outcome β} {b : β} :
    x >>= f = .ok b ↔ ∃ a, x = .ok a ∧ f a = .ok b := by
  cases x with
  | error e => simp
  | ok a => simp

lemma bind_eq_error {x : Outcome α} {f : α → Outcome β} {e : Failure} :
    x >>= f = .error e ↔ x = .error e ∨ ∃ a, x = .ok a ∧ f a = .error e := by
  cases x with
  | error e => simp
  | ok a => simp

lemma bind_total {x : Outcome α} {f : α → Outcome β} (hx : ∃ a, x = .ok a)
    (hf : ∀ a, x = .ok a → ∃ b, f a = .ok b) : ∃ b, x >>= f = .ok b := by
  obtain ⟨a, ha⟩ := hx
  obtain ⟨b, hb⟩ := hf a ha
  exact ⟨b, bind_eq_ok.mpr ⟨a, ha, hb⟩⟩

lemma map_eq_ok {x : Outcome α} {f : α → β} {b : β} :
    x.map f = .ok b ↔ ∃ a, x = .ok a ∧ f a = b := by
  cases x <;> simp [Except.map]

lemma map_eq_error {x : Outcome α} {f : α → β} {e : Failure} :
    x.map f = .error e ↔ x = .error e := by
  cases x <;> simp [Except.map]

/-! ### Failures -/

/-- The operation fails, and the cause is of the kind `k`. -/
def Fails (x : Outcome α) (k : Failure.Kind) : Prop := ∃ f, x = .error f ∧ f.kind = k

@[simp] lemma not_fails_ok (a : α) (k : Failure.Kind) :
    ¬ Fails (Except.ok a) k := nofun

@[simp] lemma fails_error (f : Failure) (k : Failure.Kind) :
    Fails (Except.error f : Outcome α) k ↔ f.kind = k := by
  simp [Fails]

/-! ### Lists of operations -/

lemma mapM_total {f : α → Outcome β} {l : List α} (h : ∀ x ∈ l, ∃ y, f x = .ok y) :
    ∃ ys, l.mapM f = .ok ys := by
  induction l with
  | nil => exact ⟨[], rfl⟩
  | cons x rest ih =>
    obtain ⟨y, hy⟩ := h x (by simp)
    obtain ⟨ys, hys⟩ := ih fun z hz => h z (by simp [hz])
    exact ⟨y :: ys, by rw [List.mapM_cons, hy, ok_bind, hys]; rfl⟩

lemma mapM_congr {f : α → Outcome β} {g : γ → Outcome β} {l : List α} {l' : List γ}
    (h : l.map f = l'.map g) : l.mapM f = l'.mapM g := by
  have hf : l.mapM f = (l.map f).mapM id := by rw [List.mapM_map]; rfl
  have hg : l'.mapM g = (l'.map g).mapM id := by rw [List.mapM_map]; rfl
  rw [hf, hg, h]

lemma mapM_eq_ok {f : α → Outcome β} {l : List α} {ys : List β} :
    l.mapM f = .ok ys ↔ List.Forall₂ (fun x y => f x = .ok y) l ys := by
  induction l generalizing ys with
  | nil => cases ys <;> simp
  | cons x rest ih =>
    rw [List.mapM_cons, bind_eq_ok]
    constructor
    · rintro ⟨y, hy, h⟩
      obtain ⟨zs, hzs, h⟩ := bind_eq_ok.mp h
      cases h
      exact .cons hy (ih.mp hzs)
    · rintro (_ | ⟨hy, h⟩)
      exact ⟨_, hy, bind_eq_ok.mpr ⟨_, ih.mpr h, rfl⟩⟩

lemma exists_error_of_mapM {f : α → Outcome β} {l : List α} {e : Failure}
    (h : l.mapM f = .error e) : ∃ x ∈ l, f x = .error e := by
  induction l with
  | nil => cases h
  | cons x rest ih =>
    rw [List.mapM_cons] at h
    rcases bind_eq_error.mp h with h | ⟨y, -, h⟩
    · exact ⟨x, List.mem_cons_self, h⟩
    rcases bind_eq_error.mp h with h | ⟨ys, -, h⟩
    · obtain ⟨z, hz, hfz⟩ := ih h
      exact ⟨z, List.mem_cons_of_mem _ hz, hfz⟩
    · cases h

lemma getElem?_of_mapM {f : α → Outcome β} {l : List α} {ys : List β} (h : l.mapM f = .ok ys)
    {i : ℕ} {x : α} (hx : l[i]? = some x) : ∃ y, ys[i]? = some y ∧ f x = .ok y := by
  have hf := mapM_eq_ok.mp h
  obtain ⟨hi, rfl⟩ := List.getElem?_eq_some_iff.mp hx
  have hi' : i < ys.length := hf.length_eq ▸ hi
  exact ⟨ys[i], List.getElem?_eq_getElem hi', hf.get hi hi'⟩

lemma exists_ok_of_mapM {f : α → Outcome β} {l : List α} {ys : List β} (h : l.mapM f = .ok ys)
    {x : α} (hx : x ∈ l) : ∃ y, f x = .ok y := by
  obtain ⟨i, hx⟩ := List.mem_iff_getElem?.mp hx
  obtain ⟨y, -, hy⟩ := getElem?_of_mapM h hx
  exact ⟨y, hy⟩

lemma forall_of_mapM {f : α → Outcome β} {l : List α} {ys : List β} (h : l.mapM f = .ok ys)
    {p : β → Prop} (hp : ∀ x ∈ l, ∀ y, f x = .ok y → p y) : ∀ y ∈ ys, p y := by
  intro y hy
  have hf := mapM_eq_ok.mp h
  obtain ⟨i, hi, rfl⟩ := List.getElem_of_mem hy
  have hi' : i < l.length := hf.length_eq ▸ hi
  exact hp _ (List.getElem_mem hi') _ (hf.get hi' hi)

/-- Readers undo a list of writers where each one undoes its writer. -/
lemma mapM_of_mapM {f : α → Outcome β} {g : β → Outcome α} {l : List α} {ys : List β}
    (h : l.mapM f = .ok ys) (hg : ∀ x ∈ l, ∀ y, f x = .ok y → g y = .ok x) :
    ys.mapM g = .ok l := by
  have hf := mapM_eq_ok.mp h
  refine mapM_eq_ok.mpr (List.forall₂_iff_get.mpr ⟨hf.length_eq.symm, fun i hi hi' => ?_⟩)
  exact hg _ (List.getElem_mem hi') _ (hf.get hi' hi)

lemma mapM_take {f : α → Outcome β} {l : List α} {ys : List β} (h : l.mapM f = .ok ys) (k : ℕ) :
    (l.take k).mapM f = .ok (ys.take k) :=
  mapM_eq_ok.mpr (List.forall₂_take k (mapM_eq_ok.mp h))

lemma mapM_drop {f : α → Outcome β} {l : List α} {ys : List β} (h : l.mapM f = .ok ys) (k : ℕ) :
    (l.drop k).mapM f = .ok (ys.drop k) :=
  mapM_eq_ok.mpr (List.forall₂_drop k (mapM_eq_ok.mp h))

/-- The place in the list matters to failures only. -/
lemma mapM_zipIdx_eq_ok {f : ℕ → α → Outcome β} {R : α → β → Prop} {l : List α} {ys : List β}
    (hf : ∀ i x y, f i x = .ok y ↔ R x y) :
    l.zipIdx.mapM (fun x => f x.2 x.1) = .ok ys ↔ List.Forall₂ R l ys := by
  calc l.zipIdx.mapM (fun x => f x.2 x.1) = .ok ys
      ↔ List.Forall₂ (fun x y => R x.1 y) l.zipIdx ys := by simp only [mapM_eq_ok, hf]
    _ ↔ List.Forall₂ R (l.zipIdx.map Prod.fst) ys := List.forall₂_map_left_iff.symm
    _ ↔ List.Forall₂ R l ys := by rw [List.zipIdx_map_fst]

end RingBallot.Outcome
