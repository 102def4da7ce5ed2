import Mathlib.Data.List.Forall2
import PluginSchema.Conversion.Run

/-!
# Runs in sequence

A list is converted by one run for each element, up to the first that fails. All succeed exactly
if the values of the runs, in order, are the values of the whole, and otherwise the error of the
whole is that of the first run with one.
-/

namespace PluginSchema.Conversion

variable {α β : Type}

namespace Run

/-- Runs in sequence yield a list just if each yields its element. -/
theorem mapM_eq_ok_iff {step : α → Run β} {xs : List α} {ys : List β} :
    (xs.mapM step).result = .ok ys ↔
      List.Forall₂ (fun x y => (step x).result = .ok y) xs ys := by
  induction xs generalizing ys with
  | nil => simp [eq_comm]
  | cons x xs ih =>
    simp only [List.mapM_cons, result_bind_eq_ok_iff, ih, result_pure, Except.ok.injEq]
    cases ys <;> simp [List.forall₂_cons]

/-- Runs in sequence end with the error of the first that has one. -/
theorem mapM_error? (step : α → Run β) (xs : List α) :
    (xs.mapM step).error? = xs.findSome? fun x => (step x).error? := by
  induction xs with
  | nil => rfl
  | cons x xs ih =>
    rw [List.mapM_cons, error?_bind fun _ _ => error?_bind_pure _ _, ih, List.findSome?_cons]
    cases (step x).error? <;> rfl

end Run

variable {R : α → β → Prop} {xs : List α} {ys : List β}

/-- Where two lists are related element by element, each element of the first has a partner. -/
theorem exists_right_of_mem (h : List.Forall₂ R xs ys) {x : α} (hx : x ∈ xs) :
    ∃ y ∈ ys, R x y := by
  induction h with
  | nil => cases hx
  | cons hfirst _ ih =>
    rcases List.mem_cons.mp hx with rfl | hx
    · exact ⟨_, List.mem_cons_self, hfirst⟩
    · obtain ⟨y, hy, hrel⟩ := ih hx
      exact ⟨y, List.mem_cons_of_mem _ hy, hrel⟩

/-- Where two lists are related element by element, each element of the second has a partner. -/
theorem exists_left_of_mem (h : List.Forall₂ R xs ys) {y : β} (hy : y ∈ ys) :
    ∃ x ∈ xs, R x y :=
  exists_right_of_mem h.flip hy

end PluginSchema.Conversion
