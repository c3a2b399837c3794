import Mathlib.Data.List.Forall2

/-!
# Traversals that may fail

A list is gone through with an operation that may fail. The traversal gives the results of all
entries in order, or the error of the first entry that has one.
-/

namespace SurfaceLint

variable {α β ε : Type} {f : α → Except ε β}

theorem ok_bind (a : α) (next : α → Except ε β) : (Except.ok a >>= next) = next a := rfl

theorem error_bind (error : ε) (next : α → Except ε β) :
    (Except.error error >>= next) = .error error := rfl

theorem mapM_eq_ok_iff {xs : List α} {ys : List β} :
    xs.mapM f = .ok ys ↔ List.Forall₂ (fun x y => f x = .ok y) xs ys := by
  induction xs generalizing ys with
  | nil =>
    rw [List.forall₂_nil_left_iff]
    exact ⟨fun h => (Except.ok.inj h).symm, fun h => h ▸ rfl⟩
  | cons x xs ih =>
    rw [List.forall₂_cons_left_iff, List.mapM_cons]
    cases hx : f x with
    | error error => simp [error_bind]
    | ok y =>
      cases hxs : xs.mapM f with
      | error error => simp [ok_bind, ← ih, hxs]
      | ok zs => simp [ok_bind, ← ih, hxs, pure, Except.pure, eq_comm]

theorem mapM_eq_ok {g : α → β} {xs : List α} (h : ∀ x ∈ xs, f x = .ok (g x)) :
    xs.mapM f = .ok (xs.map g) := by
  rw [mapM_eq_ok_iff, List.forall₂_map_right_iff, List.forall₂_same]
  exact h

/-- A traversal fails with the error of the first entry that has one. -/
theorem mapM_eq_error_iff {xs : List α} {error : ε} :
    xs.mapM f = .error error ↔
      ∃ before x after, xs = before ++ x :: after ∧
        (∀ earlier ∈ before, ∃ y, f earlier = .ok y) ∧ f x = .error error := by
  induction xs with
  | nil => simp [pure, Except.pure]
  | cons x xs ih =>
    rw [List.mapM_cons]
    constructor
    · intro h
      cases hx : f x with
      | error other =>
        rw [hx] at h
        obtain rfl := Except.error.inj h
        exact ⟨[], x, xs, rfl, by simp, hx⟩
      | ok y =>
        cases hxs : xs.mapM f with
        | ok ys =>
          rw [hx, hxs] at h
          contradiction
        | error other =>
          rw [hx, hxs] at h
          have heq : other = error := Except.error.inj h
          obtain ⟨before, z, after, rfl, hbefore, hz⟩ := ih.mp (heq ▸ hxs)
          refine ⟨x :: before, z, after, rfl, ?_, hz⟩
          exact List.forall_mem_cons.mpr ⟨⟨y, hx⟩, hbefore⟩
    · rintro ⟨before, z, after, hsplit, hbefore, hz⟩
      cases before with
      | nil =>
        obtain ⟨rfl, -⟩ := List.cons.inj hsplit
        rw [hz]
        rfl
      | cons first before =>
        obtain ⟨rfl, hrest⟩ := List.cons.inj hsplit
        obtain ⟨⟨y, hx⟩, hbefore⟩ := List.forall_mem_cons.mp hbefore
        rw [hx, ih.mpr ⟨before, z, after, hrest, hbefore, hz⟩]
        rfl

end SurfaceLint
