import Mathlib

/-!
# First match by priority

Candidates are sorted by a key and the first that passes a test is chosen. Candidates of equal key
keep the order they came in, so the choice is determined up to the arrangement of ties.

## Main results

* `find?_insertionSort_cons`: a candidate that passes and comes first is chosen when no candidate
  with a smaller key passes;
* `eq_false_of_find?_insertionSort`: no candidate with a smaller key than the chosen one passes;
* `find?_flatMap_map_eq` and `find?_flatMap_map`: the first item that passes, among the items of
  several owners, is the first of the first owner with such an item.
-/

namespace Priority

variable {α β γ κ : Type}

section Sorted

variable [LinearOrder κ] {key : α → κ} {p : α → Bool} {a : α} {xs : List α}

/-- A candidate that passes and comes first is chosen when no candidate with a smaller key
passes. -/
theorem find?_insertionSort_cons (ha : p a = true)
    (hsmaller : ∀ b ∈ xs, key b < key a → p b = false) :
    ((a :: xs).insertionSort fun b c => key b ≤ key c).find? p = some a := by
  rw [List.insertionSort_cons_eq_take_drop, List.find?_append]
  -- What precedes the candidate has a smaller key.
  have hnone : ((xs.insertionSort fun b c => key b ≤ key c).takeWhile
      fun b => decide ¬key a ≤ key b).find? p = none := by
    rw [List.find?_eq_none]
    intro b hb
    have htaken := List.mem_takeWhile_imp hb
    have hlt : key b < key a := not_le.mp (of_decide_eq_true htaken)
    have hmem : b ∈ xs := (List.mem_insertionSort _).mp ((List.takeWhile_subset _) hb)
    rw [hsmaller b hmem hlt]
    exact Bool.false_ne_true
  rw [hnone, Option.none_or, List.find?_cons_of_pos ha]

/-- No candidate with a smaller key than the chosen one passes. -/
theorem eq_false_of_find?_insertionSort
    (h : (xs.insertionSort fun b c => key b ≤ key c).find? p = some a) {b : α} (hb : b ∈ xs)
    (hlt : key b < key a) : p b = false := by
  obtain ⟨-, before, after, hsplit, hbefore⟩ := List.find?_eq_some_iff_append.mp h
  have hsorted : (xs.insertionSort fun b c => key b ≤ key c).Pairwise
      (fun b c => key b ≤ key c) := List.pairwise_insertionSort _ _
  have hmem : b ∈ before ++ a :: after := hsplit ▸ (List.mem_insertionSort _).mpr hb
  rw [hsplit] at hsorted
  rcases List.mem_append.mp hmem with hmem | hmem
  · simpa using hbefore b hmem
  · -- From the chosen candidate on, keys are not smaller than its own.
    have hle : key a ≤ key b := by
      rcases List.mem_cons.mp hmem with rfl | hmem
      · exact le_refl _
      · exact (List.pairwise_cons.mp (List.pairwise_append.mp hsorted).2.1).1 b hmem
    exact absurd hlt (not_lt.mpr hle)

end Sorted

/-- The first item that passes is the first that passes among the items of the first owner that
has one. -/
theorem find?_flatMap_map_eq (items : α → List β) (owner : α → γ) (q : β → Bool) (xs : List α) :
    ((xs.flatMap fun a => (items a).map fun b => (owner a, b)).find? fun ob => q ob.2) =
      (xs.find? fun a => (items a).any q).bind fun a =>
        ((items a).find? q).map fun b => (owner a, b) := by
  induction xs with
  | nil => rfl
  | cons a xs ih =>
      rw [List.flatMap_cons, List.find?_append, List.find?_cons, List.find?_map]
      -- The items of the first owner decide the match if one of them passes.
      cases hfind : (items a).find? q with
      | none =>
          have hany : (items a).any q = false := by
            rw [List.any_eq_false]
            exact List.find?_eq_none.mp hfind
          have hnone : (items a).find? ((fun ob : γ × β => q ob.2) ∘ fun b => (owner a, b)) =
              none := hfind
          rw [hnone, hany]
          exact ih
      | some b =>
          have hpass : q b = true := List.find?_some hfind
          have hany : (items a).any q = true :=
            List.any_eq_true.mpr ⟨b, List.mem_of_find?_eq_some hfind, hpass⟩
          have hsome : (items a).find? ((fun ob : γ × β => q ob.2) ∘ fun b => (owner a, b)) =
              some b := hfind
          rw [hsome, hany]
          show _ = ((items a).find? q).map _
          rw [hfind]
          rfl

/-- The first item that passes belongs to the first owner that has one. -/
theorem find?_flatMap_map (items : α → List β) (owner : α → γ) (q : β → Bool) (xs : List α) :
    ((xs.flatMap fun a => (items a).map fun b => (owner a, b)).find? fun ob => q ob.2).map
        Prod.fst =
      (xs.find? fun a => (items a).any q).map owner := by
  rw [find?_flatMap_map_eq]
  cases hfind : xs.find? fun a => (items a).any q with
  | none => rfl
  | some a =>
      have hany : (items a).any q = true :=
        List.find?_some (p := fun a => (items a).any q) hfind
      obtain ⟨b, hb⟩ := Option.isSome_iff_exists.mp (List.find?_isSome.mpr
        (List.any_eq_true.mp hany))
      show (((items a).find? q).map fun b => (owner a, b)).map Prod.fst = some (owner a)
      rw [hb]
      rfl

end Priority
