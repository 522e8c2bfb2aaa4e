import AapGateway.Foundations.Grouping

/-!
# Aggregates over related rows

The greatest value of a nullable column over the rows that are related to a row, as a query computes
it: the rows are joined with the related ones, a row without any being joined with a null row, and
the joined rows are grouped by the row on the left. Nulls do not count, and the maximum of nothing
is null.

## Main results

* `mem_annotateMax_iff`: the maximum next to a row is the one over the rows that are related to it;
* `le_aggregateMax`: it bounds the values of the column.
-/

namespace Aggregate

variable {α β γ : Type}

/-- `MAX` of a column. -/
def aggregateMax [Max γ] (column : List (Option γ)) : Option γ :=
  (column.filterMap id).max?

/-- The rows that a row is joined with, or a null row if there are none. -/
def joined (on : α → β → Bool) (bs : List β) (a : α) : List (α × Option β) :=
  match bs.filter (on a) with
  | [] => [(a, none)]
  | matching => matching.map fun b => (a, some b)

/-- `LEFT OUTER JOIN`. -/
def leftJoin (on : α → β → Bool) (as : List α) (bs : List β) : List (α × Option β) :=
  as.flatMap (joined on bs)

/-- The rows of a table, each with the maximum of a column of the related rows:
`.annotate(m=Max('related__column'))`. -/
def annotateMax [DecidableEq α] [Max γ] (on : α → β → Bool) (column : β → Option γ) (as : List α)
    (bs : List β) : List (α × Option γ) :=
  (Grouping.group Prod.fst (leftJoin on as bs)).map fun g =>
    (g.1, aggregateMax (g.2.map fun row => row.2.bind column))

section Rules

variable {on : α → β → Bool} {column : β → Option γ} {as : List α} {bs : List β} {a : α}
  {m : Option γ}

/-- Rows without a value can be left out before. -/
theorem aggregateMax_filter_isSome [Max γ] (column : β → Option γ) (bs : List β) :
    aggregateMax ((bs.filter fun b => (column b).isSome).map column) =
      aggregateMax (bs.map column) := by
  unfold aggregateMax
  rw [List.filterMap_map, List.filterMap_map, List.filterMap_filter]
  congr 1
  apply List.filterMap_congr
  intro b _
  cases hb : column b with
  | none => simp [hb]
  | some c => simp [hb]

/-- A value of the column is at most the maximum. -/
theorem le_aggregateMax [LinearOrder γ] {values : List (Option γ)} {c : γ} (h : some c ∈ values) :
    ∃ m, aggregateMax values = some m ∧ c ≤ m := by
  have hmem : c ∈ values.filterMap id := List.mem_filterMap.mpr ⟨some c, h, rfl⟩
  cases hmax : (values.filterMap id).max? with
  | none =>
      rw [List.max?_eq_none_iff] at hmax
      rw [hmax] at hmem
      exact absurd hmem List.not_mem_nil
  | some m => exact ⟨m, hmax, (List.max?_eq_some_iff.mp hmax).2 c hmem⟩

theorem joined_ne_nil (on : α → β → Bool) (bs : List β) (a : α) : joined on bs a ≠ [] := by
  unfold joined
  split
  · exact List.cons_ne_nil _ _
  · next hne =>
      intro hnil
      exact hne (List.map_eq_nil_iff.mp hnil)

theorem fst_of_mem_joined {row : α × Option β} (h : row ∈ joined on bs a) : row.1 = a := by
  unfold joined at h
  split at h
  · rw [List.mem_singleton.mp h]
  · obtain ⟨b, -, rfl⟩ := List.mem_map.mp h
    rfl

/-- The null row adds nothing to the maximum. -/
theorem aggregateMax_joined [Max γ] (on : α → β → Bool) (column : β → Option γ) (bs : List β)
    (a : α) : aggregateMax ((joined on bs a).map fun row => row.2.bind column) =
      aggregateMax ((bs.filter (on a)).map column) := by
  unfold joined
  split
  · next hnil =>
      rw [hnil]
      rfl
  · rw [List.map_map]
    rfl

/-- The joined rows of one row among those of all. -/
theorem filter_leftJoin [DecidableEq α] (ha : a ∈ as) (hnodup : as.Nodup) :
    (leftJoin on as bs).filter (·.1 = a) = joined on bs a := by
  have hother : ∀ {a' : α}, a' ≠ a → (joined on bs a').filter (·.1 = a) = [] := by
    intro a' hne
    refine List.filter_eq_nil_iff.mpr fun row hrow => ?_
    rw [fst_of_mem_joined hrow]
    simpa using hne
  induction as with
  | nil => exact absurd ha List.not_mem_nil
  | cons a' as ih =>
      obtain ⟨hnot, hnodup⟩ := List.nodup_cons.mp hnodup
      show (joined on bs a' ++ leftJoin on as bs).filter (·.1 = a) = _
      rw [List.filter_append]
      rcases List.mem_cons.mp ha with rfl | hmem
      · -- The other rows are joined under other rows.
        have hrest : (leftJoin on as bs).filter (·.1 = a) = [] := by
          refine List.filter_eq_nil_iff.mpr fun row hrow => ?_
          obtain ⟨a', ha', hrow⟩ := List.mem_flatMap.mp hrow
          have hfst : row.1 = a' := fst_of_mem_joined hrow
          rw [hfst, decide_eq_true_iff]
          rintro rfl
          exact hnot ha'
        have hall : (joined on bs a).filter (·.1 = a) = joined on bs a :=
          List.filter_eq_self.mpr fun row hrow => decide_eq_true (fst_of_mem_joined hrow)
        rw [hrest, hall, List.append_nil]
      · have hne : a' ≠ a := fun heq => hnot (heq ▸ hmem)
        rw [hother hne, ih hmem hnodup]
        rfl

/-- Every row is there once, with the maximum over the rows that are related to it. -/
theorem mem_annotateMax_iff [DecidableEq α] [Max γ] (hnodup : as.Nodup) :
    (a, m) ∈ annotateMax on column as bs ↔
      a ∈ as ∧ m = aggregateMax ((bs.filter (on a)).map column) := by
  unfold annotateMax
  constructor
  · intro h
    obtain ⟨⟨a', rows⟩, hgroup, heq⟩ := List.mem_map.mp h
    obtain ⟨rfl, rfl⟩ := Prod.mk.inj heq
    obtain ⟨hrows, hne⟩ := Grouping.mem_group_iff.mp hgroup
    -- A group has a row, and its first component is a row of the table.
    obtain ⟨row, hrow⟩ := List.exists_mem_of_ne_nil _ hne
    rw [hrows] at hrow
    obtain ⟨hjoin, hfst⟩ := List.mem_filter.mp hrow
    obtain ⟨a'', ha'', hjoined⟩ := List.mem_flatMap.mp hjoin
    have hkey : a'' = a' := (fst_of_mem_joined hjoined).symm.trans (of_decide_eq_true hfst)
    have hmem : a' ∈ as := hkey ▸ ha''
    refine ⟨hmem, ?_⟩
    rw [hrows, filter_leftJoin hmem hnodup, aggregateMax_joined]
  · rintro ⟨hmem, rfl⟩
    refine List.mem_map.mpr ⟨(a, joined on bs a), ?_, ?_⟩
    · exact Grouping.mem_group_iff.mpr ⟨(filter_leftJoin hmem hnodup).symm, joined_ne_nil on bs a⟩
    · rw [aggregateMax_joined]

end Rules

end Aggregate
