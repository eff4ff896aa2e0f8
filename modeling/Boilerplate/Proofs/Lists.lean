import Mathlib.Data.List.Forall2

namespace Boilerplate

variable {ε α β γ : Type} {f : α → Except ε β} {xs : List α} {ys : List β}

theorem append_eq_append_cons {first second before after : List α} {x : α}
    (h : first ++ second = before ++ x :: after) :
    (∃ more, first = before ++ x :: more ∧ after = more ++ second) ∨
      ∃ front, before = first ++ front ∧ second = front ++ x :: after := by
  rcases List.append_eq_append_iff.mp h with ⟨front, rfl, rfl⟩ | ⟨more, rfl, hsecond⟩
  · exact .inr ⟨front, rfl, rfl⟩
  · cases more with
    | nil => exact .inr ⟨[], by simp, hsecond.symm⟩
    | cons y more =>
      obtain ⟨rfl, rfl⟩ := List.cons.inj hsecond
      exact .inl ⟨more, rfl, rfl⟩

theorem mapM_eq_ok_iff :
    xs.mapM f = .ok ys ↔ List.Forall₂ (fun x y ↦ f x = .ok y) xs ys := by
  induction xs generalizing ys with
  | nil =>
    rw [List.forall₂_nil_left_iff]
    exact ⟨fun h ↦ (Except.ok.inj h).symm, fun h ↦ h ▸ rfl⟩
  | cons x xs ih =>
    rw [List.mapM_cons, List.forall₂_cons_left_iff]
    constructor
    · intro h
      cases hx : f x with
      | error e =>
        rw [hx] at h
        cases h
      | ok y =>
        cases hxs : xs.mapM f with
        | error e =>
          rw [hx, hxs] at h
          cases h
        | ok zs =>
          rw [hx, hxs] at h
          exact ⟨y, zs, rfl, ih.mp hxs, (Except.ok.inj h).symm⟩
    · rintro ⟨y, zs, hy, hzs, rfl⟩
      rw [hy, ih.mpr hzs]
      rfl

theorem mapM_eq_ok_of_forall {R : α → β → Prop} (h : ∀ x ∈ xs, ∃ y, f x = .ok y ∧ R x y) :
    ∃ ys, xs.mapM f = .ok ys ∧ List.Forall₂ R xs ys := by
  induction xs with
  | nil => exact ⟨[], rfl, .nil⟩
  | cons x xs ih =>
    obtain ⟨y, hy, hr⟩ := h x (.head _)
    obtain ⟨ys, hys, hrs⟩ := ih fun z hz ↦ h z (.tail _ hz)
    refine ⟨y :: ys, ?_, .cons hr hrs⟩
    rw [List.mapM_cons, hy, hys]
    rfl

theorem exists_mapM_eq_ok_iff : (∃ ys, xs.mapM f = .ok ys) ↔ ∀ x ∈ xs, ∃ y, f x = .ok y := by
  induction xs with
  | nil => simp [pure, Except.pure]
  | cons x xs ih =>
    rw [List.forall_mem_cons, ← ih, List.mapM_cons]
    cases f x <;> cases xs.mapM f <;> simp [bind, Except.bind, pure, Except.pure]

theorem mem_of_mapM_eq_ok {y : β} (h : xs.mapM f = .ok ys) :
    y ∈ ys ↔ ∃ x ∈ xs, f x = .ok y := by
  replace h := mapM_eq_ok_iff.mp h
  induction h with
  | nil => simp
  | cons hx _ ih => simp [ih, hx, eq_comm (a := y)]

theorem mapM_map (f : α → Except ε β) (g : β → γ) (xs : List α) :
    xs.mapM (fun x ↦ (f x).map g) = (xs.mapM f).map (List.map g) := by
  induction xs with
  | nil => rfl
  | cons x xs ih =>
    rw [List.mapM_cons, List.mapM_cons, ih]
    cases f x with
    | error e => rfl
    | ok y => cases xs.mapM f <;> rfl

end Boilerplate
