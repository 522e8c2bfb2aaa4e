import Mathlib
import AapGateway.Foundations.Dict

/-!
# Canonical listings

A list that is sorted by a key without repeating one is determined by its members. This is how an
answer that is collected from rows in an unspecified order becomes independent of that order.

The rows are collected in a dictionary of sets. A set is a list without repetitions.

## Main definitions

* `Canonical.sorted`: the stable sort by a key;
* `Dict.addTo`: adding a value to the set of a key.

## Main results

* `Canonical.eq_of_mem_iff`: strictly sorted lists with the same members are the same;
* `Dict.mem_items_collect`: the items of a dictionary that is filled from rows.
-/

namespace Canonical

variable {α κ : Type} [LinearOrder κ] {key : α → κ} {xs ys : List α} {a : α}

/-- The stable sort by a key. -/
def sorted (key : α → κ) (xs : List α) : List α :=
  xs.insertionSort fun a b => key a ≤ key b

/-- Sorting keeps the members. -/
@[simp]
theorem mem_sorted : a ∈ sorted key xs ↔ a ∈ xs :=
  List.mem_insertionSort _

/-- The keys of a sorted list do not decrease. -/
theorem pairwise_sorted : (sorted key xs).Pairwise fun a b => key a ≤ key b := by
  have htotal : Std.Total fun a b : α => key a ≤ key b := ⟨fun a b => le_total (key a) (key b)⟩
  have htrans : IsTrans α fun a b => key a ≤ key b := ⟨fun _ _ _ => le_trans⟩
  exact List.pairwise_insertionSort _ _

/-- The keys of a sorted list increase when no key is repeated. -/
theorem pairwise_lt_sorted (h : (xs.map key).Nodup) :
    (sorted key xs).Pairwise fun a b => key a < key b := by
  have hkeys : ((sorted key xs).map key).Nodup :=
    ((List.perm_insertionSort (fun a b => key a ≤ key b) xs).map key).nodup_iff.mpr h
  have hne : (sorted key xs).Pairwise fun a b => key a ≠ key b := List.pairwise_map.mp hkeys
  exact (pairwise_sorted.and hne).imp fun hab => lt_of_le_of_ne hab.1 hab.2

/-- Lists in strict order with the same members are the same. -/
theorem eq_of_mem_iff (hx : xs.Pairwise fun a b => key a < key b)
    (hy : ys.Pairwise fun a b => key a < key b) (h : ∀ a, a ∈ xs ↔ a ∈ ys) : xs = ys := by
  have hperm : xs.Perm ys := by
    apply (List.perm_ext_iff_of_nodup _ _).mpr h
    · exact hx.imp fun hlt heq => hlt.ne (congrArg key heq)
    · exact hy.imp fun hlt heq => hlt.ne (congrArg key heq)
  exact hperm.eq_of_pairwise (fun a b _ _ hab hba => absurd hab hba.asymm) hx hy

end Canonical

namespace Dict

variable {α β : Type}

section Sets

variable [DecidableEq β]

/-- Add a value to the set of a key, which is empty by default. -/
def addTo (d : Dict (List β)) (key : String) (v : β) : Dict (List β) :=
  d.set key (((d.get? key).getD []).insert v)

/-- Collect the values of rows in the sets of their keys. -/
def collect (key : α → String) (val : α → β) (rows : List α) : Dict (List β) :=
  rows.foldl (fun d row => d.addTo (key row) (val row)) empty

/-- The set of a key after the rows are collected. -/
theorem get?_collect (key : α → String) (val : α → β) (rows : List α) (k : String) :
    ((collect key val rows).get? k = none ↔ ∀ row ∈ rows, key row ≠ k) ∧
      ∀ values, (collect key val rows).get? k = some values →
        values.Nodup ∧ ∀ v, v ∈ values ↔ ∃ row ∈ rows, key row = k ∧ val row = v := by
  induction rows using List.reverseRecOn with
  | nil => exact ⟨by simp [collect, empty, get?], by simp [collect, empty, get?]⟩
  | append_singleton rows row ih =>
      have hstep : collect key val (rows ++ [row]) =
          (collect key val rows).addTo (key row) (val row) := by
        rw [collect, List.foldl_append]
        rfl
      rw [hstep, addTo, get?_set]
      obtain ⟨hnone, hsome⟩ := ih
      by_cases hk : k = key row
      · subst hk
        -- The set that was there before, or the empty one.
        have hbefore : (((collect key val rows).get? (key row)).getD []).Nodup ∧
            ∀ v, v ∈ ((collect key val rows).get? (key row)).getD [] ↔
              ∃ row' ∈ rows, key row' = key row ∧ val row' = v := by
          cases hget : (collect key val rows).get? (key row) with
          | none =>
              refine ⟨List.nodup_nil, fun v => ⟨fun h => absurd h List.not_mem_nil, ?_⟩⟩
              rintro ⟨row', hrow', hkey, -⟩
              exact absurd hkey (hnone.mp hget row' hrow')
          | some values => exact hsome values hget
        refine ⟨by simp, ?_⟩
        rintro values hvalues
        obtain rfl : List.insert _ _ = values := by simpa using hvalues
        refine ⟨hbefore.1.insert, fun v => ?_⟩
        rw [List.mem_insert_iff, hbefore.2 v]
        simp only [List.mem_append, List.mem_singleton]
        constructor
        · rintro (rfl | ⟨row', hrow', hkey, hval⟩)
          · exact ⟨row, Or.inr rfl, rfl, rfl⟩
          · exact ⟨row', Or.inl hrow', hkey, hval⟩
        · rintro ⟨row', hrow' | rfl, hkey, hval⟩
          · exact Or.inr ⟨row', hrow', hkey, hval⟩
          · exact Or.inl hval.symm
      · have hout : key row ≠ k := fun h => hk h.symm
        rw [if_neg hk]
        refine ⟨by simp [hnone, or_imp, forall_and, hout], fun values hvalues => ?_⟩
        refine ⟨(hsome values hvalues).1, fun v => ?_⟩
        simp [(hsome values hvalues).2 v, or_and_right, exists_or, hout]

/-- The items after the rows are collected: each key that occurs, with the values of its rows. -/
theorem mem_items_collect {key : α → String} {val : α → β} {rows : List α} {k : String}
    {values : List β} (h : (k, values) ∈ (collect key val rows).items) :
    values ≠ [] ∧ values.Nodup ∧ ∀ v, v ∈ values ↔ ∃ row ∈ rows, key row = k ∧ val row = v := by
  have hget := (get?_eq_some _).mpr h
  obtain ⟨hnone, hsome⟩ := get?_collect key val rows k
  obtain ⟨hnodup, hmem⟩ := hsome values hget
  refine ⟨?_, hnodup, hmem⟩
  rintro rfl
  -- A key is there because of a row, and the value of that row is in its set.
  have hrow : ¬ ∀ row ∈ rows, key row ≠ k := by
    rw [← hnone, hget]
    simp
  push Not at hrow
  obtain ⟨row, hrow, hkey⟩ := hrow
  exact List.not_mem_nil ((hmem (val row)).mpr ⟨row, hrow, hkey, rfl⟩)

/-- A key that occurs is there. -/
theorem exists_mem_items_collect {key : α → String} (val : α → β) {rows : List α} {row : α}
    (hrow : row ∈ rows) : ∃ values, (key row, values) ∈ (collect key val rows).items := by
  cases hget : (collect key val rows).get? (key row) with
  | none => exact absurd rfl ((get?_collect key val rows (key row)).1.mp hget row hrow)
  | some values => exact ⟨values, (get?_eq_some _).mp hget⟩

end Sets

end Dict
