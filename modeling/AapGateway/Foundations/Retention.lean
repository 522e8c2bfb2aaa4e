import Mathlib

/-!
# Keeping the newest rows

A table is capped by ordering its rows newest first, skipping the first `allowed` of them and
removing the rest: what `ORDER BY key DESC OFFSET allowed` selects for removal. The key is any
function into a linear order.

## Main definitions

* `overLimit`: the rows past the first `allowed`, newest first.
* `retained`: the rows that are not over the limit.

## Main results

* `length_retained`: as many rows are kept as there are, up to the allowed number.
* `key_le_of_retained`: no removed row is newer than a kept one.
* `mem_retained_of_newest`: the newest row is kept;
* `mem_overLimit_iff`: a row is over the limit when enough rows are newer;
* `length_filter_hidden`: a row that the capping does not see is kept beside the allowed number.
-/

namespace Retention

variable {α κ : Type} [LinearOrder κ] (key : α → κ)

/-- The rows past the first `allowed`, in the order newest first. -/
def overLimit (allowed : ℕ) (rows : List α) : List α :=
  (rows.insertionSort fun a b => key b ≤ key a).drop allowed

/-- Rows compare totally by their key, newest first. -/
instance total_newest : Std.Total fun a b : α => key b ≤ key a :=
  ⟨fun a b => le_total (key b) (key a)⟩

/-- Comparing rows by their key, newest first, is transitive. -/
instance isTrans_newest : IsTrans α fun a b => key b ≤ key a := ⟨fun _ _ _ h h' => h'.trans h⟩

/-- The rows in the order newest first. -/
theorem pairwise_sorted (rows : List α) :
    (rows.insertionSort fun a b => key b ≤ key a).Pairwise fun a b => key b ≤ key a :=
  List.pairwise_insertionSort _ rows

variable {key} {allowed : ℕ} {rows : List α} {r : α}

/-- Only rows of the table are over the limit. -/
theorem mem_of_mem_overLimit (h : r ∈ overLimit key allowed rows) : r ∈ rows :=
  (List.mem_insertionSort _).mp (List.mem_of_mem_drop h)

/-- Nothing is over the limit of a table no longer than it. -/
theorem overLimit_eq_nil (h : rows.length ≤ allowed) : overLimit key allowed rows = [] :=
  List.drop_eq_nil_of_le (by rw [List.length_insertionSort]; exact h)

variable [DecidableEq α]

variable (key allowed rows) in
/-- The rows that are not over the limit. -/
def retained : List α := rows.filter fun r => r ∉ overLimit key allowed rows

/-- A row is kept when it is in the table and not over the limit. -/
@[simp]
theorem mem_retained :
    r ∈ retained key allowed rows ↔ r ∈ rows ∧ r ∉ overLimit key allowed rows := by
  simp [retained]

/-- The kept rows are the first `allowed` ones, newest first. -/
theorem retained_perm (hnodup : rows.Nodup) :
    (retained key allowed rows).Perm
      ((rows.insertionSort fun a b => key b ≤ key a).take allowed) := by
  have hsorted : (rows.insertionSort fun a b => key b ≤ key a).Nodup :=
    (List.perm_insertionSort _ rows).nodup_iff.mpr hnodup
  have hkept : (retained key allowed rows).Nodup := hnodup.filter _
  rw [List.perm_ext_iff_of_nodup hkept (hsorted.sublist (List.take_sublist _ _))]
  intro a
  rw [mem_retained, ← List.mem_insertionSort fun a b => key b ≤ key a]
  -- a row of the ordered table is in its first part or past it, and not in both
  have hsplit := List.take_append_drop allowed (rows.insertionSort fun a b => key b ≤ key a)
  have hdisjoint := (List.nodup_append.mp (hsplit ▸ hsorted)).2.2
  constructor
  · rintro ⟨hmem, hnot⟩
    rw [← hsplit] at hmem
    exact (List.mem_append.mp hmem).resolve_right hnot
  · intro hmem
    exact ⟨List.mem_of_mem_take hmem, fun hdrop => hdisjoint a hmem a hdrop rfl⟩

/-- As many rows are kept as there are, up to the allowed number. -/
theorem length_retained (hnodup : rows.Nodup) :
    (retained key allowed rows).length = min allowed rows.length := by
  rw [(retained_perm hnodup).length_eq, List.length_take, List.length_insertionSort]

/-- No removed row is newer than a kept one. -/
theorem key_le_of_retained (hnodup : rows.Nodup) {kept gone : α}
    (hkept : kept ∈ retained key allowed rows) (hgone : gone ∈ overLimit key allowed rows) :
    key gone ≤ key kept := by
  have hfirst := (retained_perm hnodup).mem_iff.mp hkept
  have hpairs := pairwise_sorted key rows
  rw [← List.take_append_drop allowed (rows.insertionSort _)] at hpairs
  exact (List.pairwise_append.mp hpairs).2.2 kept hfirst gone hgone

/-- The newest row is kept, whenever any row may be. -/
theorem mem_retained_of_newest (hnodup : rows.Nodup) (hallowed : 0 < allowed) (hmem : r ∈ rows)
    (hnewest : ∀ a ∈ rows, a ≠ r → key a < key r) : r ∈ retained key allowed rows := by
  refine mem_retained.mpr ⟨hmem, fun hover => ?_⟩
  -- some row is kept; were `r` removed, that row would be at least as new
  have hlength : 0 < (retained key allowed rows).length := by
    rw [length_retained hnodup]
    exact lt_min hallowed (List.length_pos_of_mem hmem)
  obtain ⟨kept, hkept⟩ := List.exists_mem_of_length_pos hlength
  have hne : kept ≠ r := by
    rintro rfl
    exact (mem_retained.mp hkept).2 hover
  exact absurd (key_le_of_retained hnodup hkept hover)
    (not_le.mpr (hnewest kept (mem_retained.mp hkept).1 hne))

/-- A row is over the limit when at least the allowed number of rows are newer than it. -/
theorem mem_overLimit_iff (hinj : (rows.map key).Nodup) (hmem : r ∈ rows) :
    r ∈ overLimit key allowed rows ↔ allowed ≤ (rows.filter fun a => key r < key a).length := by
  have hnodup : rows.Nodup := hinj.of_map _
  have hlength : (retained key allowed rows).length = min allowed rows.length :=
    length_retained hnodup
  constructor
  · intro hover
    -- some row is removed, so the allowed number is kept, and each of them is newer
    have hfull : allowed < rows.length := by
      by_contra hle
      rw [overLimit_eq_nil (not_lt.mp hle)] at hover
      exact List.not_mem_nil hover
    rw [min_eq_left hfull.le] at hlength
    rw [← hlength]
    refine (hnodup.filter _).length_le_of_subset ?_
    intro kept hkept
    obtain ⟨hrow, hnot⟩ := mem_retained.mp hkept
    refine List.mem_filter.mpr ⟨hrow, decide_eq_true ?_⟩
    refine lt_of_le_of_ne (key_le_of_retained hnodup hkept hover) fun heq => ?_
    exact hnot (List.inj_on_of_nodup_map hinj hmem hrow heq ▸ hover)
  · intro hnewer
    by_contra hover
    have hkept : r ∈ retained key allowed rows := mem_retained.mpr ⟨hmem, hover⟩
    -- the rows newer than a kept row are kept, and that row is one more
    have hsub : ∀ a ∈ r :: rows.filter (fun a => key r < key a), a ∈ retained key allowed rows := by
      intro a ha
      rcases List.mem_cons.mp ha with rfl | ha
      · exact hkept
      · obtain ⟨hrow, hlt⟩ := List.mem_filter.mp ha
        refine mem_retained.mpr ⟨hrow, fun hgone => ?_⟩
        exact absurd (key_le_of_retained hnodup hkept hgone) (not_le.mpr (of_decide_eq_true hlt))
    have hcons : (r :: rows.filter fun a => key r < key a).Nodup := by
      refine List.nodup_cons.mpr ⟨fun hr => ?_, hnodup.filter _⟩
      exact lt_irrefl _ (of_decide_eq_true (List.mem_filter.mp hr).2)
    have hle := (List.subperm_of_subset hcons hsub).length_le
    rw [List.length_cons, hlength] at hle
    omega

/-- Capping the rows that are seen, when one row is not: that row is kept beside the others. -/
theorem length_filter_hidden {seen : List α} (hnodup : rows.Nodup)
    (hseen : seen.Perm (rows.filter fun a => a ≠ r)) :
    (rows.filter fun a => a ∉ overLimit key allowed seen).length =
      if r ∈ rows then min allowed (rows.length - 1) + 1 else min allowed rows.length := by
  have hseenNodup : seen.Nodup := hseen.nodup_iff.mpr (hnodup.filter _)
  have hretained : (seen.filter fun a => a ∉ overLimit key allowed seen).length =
      min allowed seen.length := length_retained hseenNodup
  split
  · rename_i hr
    have herase : rows.filter (fun a => a ≠ r) = rows.erase r := by
      rw [hnodup.erase_eq_filter]
      refine List.filter_congr fun a _ => ?_
      rw [bne, beq_eq_decide, decide_not]
    have hnot : r ∉ overLimit key allowed seen := by
      intro hover
      have hfilter := hseen.mem_iff.mp (mem_of_mem_overLimit hover)
      exact of_decide_eq_true (List.mem_filter.mp hfilter).2 rfl
    have hperm : rows.Perm (r :: seen) :=
      (List.perm_cons_erase hr).trans ((herase ▸ hseen.symm).cons r)
    have hcons : (r :: seen).filter (fun a => a ∉ overLimit key allowed seen) =
        r :: seen.filter (fun a => a ∉ overLimit key allowed seen) :=
      List.filter_cons_of_pos (decide_eq_true hnot)
    rw [(hperm.filter _).length_eq, hcons, List.length_cons, hretained, hperm.length_eq]
    rfl
  · rename_i hr
    have hall : rows.filter (fun a => a ≠ r) = rows := by
      rw [List.filter_eq_self]
      intro a ha
      exact decide_eq_true fun h => hr (h ▸ ha)
    have hperm : rows.Perm seen := (hall ▸ hseen).symm
    rw [(hperm.filter _).length_eq, hretained, hperm.length_eq]

end Retention
