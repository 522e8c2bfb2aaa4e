import Mathlib

/-!
# Interleavings of two sequences

`shuffles xs ys` lists the ways to interleave two sequences. A sequence that splits by a test into
`xs` and `ys` is one of them, so a statement about every interleaving of two fixed programs is a
statement about the members of a list.

## Main results

* `mem_shuffles`: every interleaving is listed.
-/

namespace Shuffle

variable {α : Type}

/-- The interleavings of two sequences. -/
def shuffles : List α → List α → List (List α)
  | [], ys => [ys]
  | x :: xs, [] => [x :: xs]
  | x :: xs, y :: ys =>
    (shuffles xs (y :: ys)).map (x :: ·) ++ (shuffles (x :: xs) ys).map (y :: ·)
termination_by xs ys => xs.length + ys.length

/-- An interleaving of `xs` and `ys` that starts with an element of `xs`. -/
theorem cons_mem_shuffles_left {x : α} {xs ys l : List α} (h : l ∈ shuffles xs ys) :
    x :: l ∈ shuffles (x :: xs) ys := by
  cases ys with
  | nil =>
      have hl : l = xs := by
        cases xs <;> simpa [shuffles] using h
      simp [shuffles, hl]
  | cons y ys =>
      rw [shuffles]
      exact List.mem_append_left _ (List.mem_map.mpr ⟨l, h, rfl⟩)

/-- An interleaving of `xs` and `ys` that starts with an element of `ys`. -/
theorem cons_mem_shuffles_right {y : α} {xs ys l : List α} (h : l ∈ shuffles xs ys) :
    y :: l ∈ shuffles xs (y :: ys) := by
  cases xs with
  | nil =>
      have hl : l = ys := by simpa [shuffles] using h
      simp [shuffles, hl]
  | cons x xs =>
      rw [shuffles]
      exact List.mem_append_right _ (List.mem_map.mpr ⟨l, h, rfl⟩)

/-- A sequence is an interleaving of the part that passes a test and the part that does not. -/
theorem mem_shuffles (p : α → Bool) (l : List α) :
    l ∈ shuffles (l.filter p) (l.filter fun a => !p a) := by
  induction l with
  | nil => simp [shuffles]
  | cons a l ih =>
      by_cases hp : p a = true
      · rw [List.filter_cons_of_pos hp, List.filter_cons_of_neg (by simp [hp])]
        exact cons_mem_shuffles_left ih
      · rw [List.filter_cons_of_neg hp, List.filter_cons_of_pos (by simp [hp])]
        exact cons_mem_shuffles_right ih

end Shuffle
