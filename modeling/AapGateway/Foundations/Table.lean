import Mathlib

/-!
# Tables with a primary key

A table is a list of rows with a key function. A row is written by key: an existing row is
replaced in place, a new one is appended. Queries are list operations in table order, which
stands for the unspecified order of an unordered query.

## Main results

* `mem_upsert` and `mem_erase`: which rows a table holds after a write or a deletion;
* `find?_upsert`, `find?_foldl_upsert` and `find?_erase`: what a lookup finds then;
* `nodup_filterMap_assign`, `nodup_filterMap_upsert_iff`: a new value in a unique column;
* `length_filter_le_one_iff`: when a condition selects at most one row;
* `exists_filter_distinctOn`: selecting one row per value of a column keeps exactly one row
  for each value.
-/

namespace Table

variable {α β : Type} {κ : Type} [DecidableEq κ]

/-- Write a row by key: replace the row of that key, else append. -/
def upsert (key : α → κ) (a : α) (rows : List α) : List α :=
  if rows.any (fun b => key b = key a) then rows.map (fun b => if key b = key a then a else b)
  else rows ++ [a]

/-- Delete the rows that satisfy `p`. -/
def erase (p : α → Bool) (rows : List α) : List α :=
  rows.filter (fun b => !p b)

/-- One row for each value of a column: the first in table order. -/
def distinctOn (col : α → κ) : List α → List α
  | [] => []
  | a :: rows => a :: (distinctOn col rows).filter (fun b => col b ≠ col a)

/-- The row with the least key, if there is a row. -/
def firstByKey (key : α → ℕ) : List α → Option α
  | [] => none
  | a :: rows =>
    match firstByKey key rows with
    | none => some a
    | some b => if key b < key a then some b else some a

/-- The rows of a table after a write. -/
theorem mem_upsert {key : α → κ} {a b : α} {rows : List α} :
    b ∈ upsert key a rows ↔ b = a ∨ b ∈ rows ∧ key b ≠ key a := by
  unfold upsert
  split
  · rename_i hany
    obtain ⟨c, hc, hkey⟩ := List.any_eq_true.mp hany
    constructor
    · intro hb
      obtain ⟨d, hd, rfl⟩ := List.mem_map.mp hb
      split
      · exact Or.inl rfl
      · rename_i hne
        exact Or.inr ⟨hd, hne⟩
    · rintro (rfl | ⟨hb, hne⟩)
      · exact List.mem_map.mpr ⟨c, hc, by simp_all⟩
      · exact List.mem_map.mpr ⟨b, hb, by simp [hne]⟩
  · rename_i hany
    simp only [List.any_eq_true, decide_eq_true_eq, not_exists, not_and] at hany
    constructor
    · intro hb
      rcases List.mem_append.mp hb with hb | hb
      · exact Or.inr ⟨hb, hany b hb⟩
      · exact Or.inl (List.mem_singleton.mp hb)
    · rintro (rfl | ⟨hb, -⟩)
      · simp
      · exact List.mem_append_left _ hb

/-- The keys of a table after a write. -/
theorem mem_map_key_upsert {key : α → κ} {a : α} {rows : List α} {k : κ} :
    k ∈ (upsert key a rows).map key ↔ k = key a ∨ k ∈ rows.map key := by
  constructor
  · intro hk
    obtain ⟨b, hb, rfl⟩ := List.mem_map.mp hk
    rcases mem_upsert.mp hb with rfl | ⟨hb, -⟩
    · exact Or.inl rfl
    · exact Or.inr (List.mem_map_of_mem hb)
  · intro hk
    by_cases hka : k = key a
    · exact hka ▸ List.mem_map_of_mem (mem_upsert.mpr (Or.inl rfl))
    · obtain ⟨b, hb, rfl⟩ := List.mem_map.mp (hk.resolve_left hka)
      exact List.mem_map_of_mem (mem_upsert.mpr (Or.inr ⟨hb, hka⟩))

/-- A write keeps the keys of a table distinct. -/
theorem nodup_map_key_upsert {key : α → κ} {a : α} {rows : List α} (h : (rows.map key).Nodup) :
    ((upsert key a rows).map key).Nodup := by
  unfold upsert
  split
  · have hkeys : (rows.map fun b => if key b = key a then a else b).map key = rows.map key := by
      rw [List.map_map]
      refine List.map_congr_left fun b _ => ?_
      show key (if key b = key a then a else b) = key b
      split
      · rename_i hba
        exact hba.symm
      · rfl
    rw [hkeys]
    exact h
  · rename_i hany
    rw [List.map_append]
    refine h.append (List.nodup_singleton _) ?_
    intro k hk hka
    obtain rfl := List.mem_singleton.mp hka
    obtain ⟨b, hb, hba⟩ := List.mem_map.mp hk
    exact hany (List.any_eq_true.mpr ⟨b, hb, decide_eq_true hba⟩)

/-- The rows of a table after a sequence of writes. -/
theorem mem_foldl_upsert {key : α → κ} {f : β → α} {writes : List β} {rows : List α} {a : α}
    (h : a ∈ writes.foldl (fun rows b => upsert key (f b) rows) rows) :
    a ∈ rows ∨ ∃ b ∈ writes, f b = a := by
  induction writes generalizing rows with
  | nil => exact Or.inl h
  | cons b writes ih =>
      rcases ih h with hrows | ⟨b', hb', heq⟩
      · rcases mem_upsert.mp hrows with rfl | ⟨hmem, -⟩
        · exact Or.inr ⟨b, List.mem_cons_self, rfl⟩
        · exact Or.inl hmem
      · exact Or.inr ⟨b', List.mem_cons_of_mem _ hb', heq⟩

/-- Every key that was there or was written is there after a sequence of writes. -/
theorem mem_map_key_foldl_upsert {key : α → κ} {f : β → α} {writes : List β} {rows : List α} {k : κ}
    (h : k ∈ rows.map key ∨ ∃ b ∈ writes, key (f b) = k) :
    k ∈ (writes.foldl (fun rows b => upsert key (f b) rows) rows).map key := by
  induction writes generalizing rows with
  | nil => exact h.resolve_right (by simp)
  | cons b writes ih =>
      refine ih ?_
      rcases h with hrows | ⟨b', hb', rfl⟩
      · exact Or.inl (mem_map_key_upsert.mpr (Or.inr hrows))
      · rcases List.mem_cons.mp hb' with rfl | hb'
        · exact Or.inl (mem_map_key_upsert.mpr (Or.inl rfl))
        · exact Or.inr ⟨b', hb', rfl⟩

/-- A sequence of writes keeps the keys of a table distinct. -/
theorem nodup_map_key_foldl_upsert {key : α → κ} {f : β → α} {writes : List β} {rows : List α}
    (h : (rows.map key).Nodup) :
    ((writes.foldl (fun rows b => upsert key (f b) rows) rows).map key).Nodup := by
  induction writes generalizing rows with
  | nil => exact h
  | cons b writes ih => exact ih (nodup_map_key_upsert h)

/-- Rows with new and distinct keys are appended. -/
theorem foldl_upsert_of_nodup {key : α → κ} {rows writes : List α}
    (h : ((rows ++ writes).map key).Nodup) :
    writes.foldl (fun rows a => upsert key a rows) rows = rows ++ writes := by
  induction writes generalizing rows with
  | nil => simp
  | cons a writes ih =>
      have hnew : rows.any (fun b => key b = key a) = false := by
        rw [List.any_eq_false]
        intro b hb hsame
        rw [List.map_append, List.map_cons, List.nodup_append] at h
        exact h.2.2 (key b) (List.mem_map_of_mem hb) (key a) List.mem_cons_self
          (of_decide_eq_true hsame)
      rw [List.foldl_cons, upsert, hnew, if_neg (by simp), ih]
      · simp
      · simpa using h

/-- The rows of a table after a deletion. -/
theorem mem_erase {p : α → Bool} {b : α} {rows : List α} :
    b ∈ erase p rows ↔ b ∈ rows ∧ p b = false := by
  simp [erase]

/-- A deletion that finds no row changes nothing. -/
theorem erase_of_forall {p : α → Bool} {rows : List α} (h : ∀ b ∈ rows, p b = false) :
    erase p rows = rows := by
  rw [erase, List.filter_eq_self]
  intro b hb
  rw [h b hb]
  rfl

/-- A lookup by key after a replacement in place. -/
theorem find?_replace (key : α → κ) (a : α) (rows : List α) (k : κ) :
    (rows.map fun b => if key b = key a then a else b).find? (fun b => key b = k) =
      if k = key a then (rows.find? fun b => key b = k).map fun _ => a
      else rows.find? fun b => key b = k := by
  induction rows with
  | nil => simp
  | cons b rows ih =>
      rw [List.map_cons, List.find?_cons, List.find?_cons, ih]
      by_cases hba : key b = key a
      · by_cases hk : k = key a
        · simp [hba, hk]
        · have hne : key a ≠ k := fun h => hk h.symm
          simp [hba, hk, hne]
      · by_cases hk : k = key a
        · simp [hba, hk]
        · simp [hba, hk]

/-- A lookup by key after a write finds the row written, or what it found before. -/
theorem find?_upsert (key : α → κ) (a : α) (rows : List α) (k : κ) :
    (upsert key a rows).find? (fun b => key b = k) =
      if k = key a then some a else rows.find? (fun b => key b = k) := by
  unfold upsert
  split
  · rename_i hany
    rw [find?_replace]
    by_cases hk : k = key a
    · have hsome : (rows.find? fun b => key b = k).isSome := by
        rw [List.find?_isSome]
        simpa [hk] using hany
      obtain ⟨b, hb⟩ := Option.isSome_iff_exists.mp hsome
      rw [if_pos hk, if_pos hk, hb]
      rfl
    · rw [if_neg hk, if_neg hk]
  · rename_i hany
    rw [List.find?_append]
    by_cases hk : k = key a
    · have hnone : (rows.find? fun b => key b = k) = none := by
        rw [List.find?_eq_none]
        simpa [hk] using hany
      rw [if_pos hk, hnone]
      simp [hk]
    · have hne : key a ≠ k := fun h => hk h.symm
      simp [hk, hne]

/-- A lookup by key after a sequence of writes finds the last row of them with that key, or what it
found before. -/
theorem find?_foldl_upsert (key : α → κ) (writes rows : List α) (k : κ) :
    (writes.foldl (fun rows a => upsert key a rows) rows).find? (fun b => key b = k) =
      (writes.reverse.find? (fun b => key b = k)).or (rows.find? (fun b => key b = k)) := by
  induction writes generalizing rows with
  | nil => simp
  | cons a writes ih =>
      rw [List.foldl_cons, ih, find?_upsert, List.reverse_cons, List.find?_append, Option.or_assoc]
      by_cases hk : k = key a
      · simp [hk]
      · simp [hk, Ne.symm hk]

/-- A lookup of rows that a deletion leaves finds what it found before. -/
theorem find?_erase {p q : α → Bool} (rows : List α) (h : ∀ b, q b = true → p b = false) :
    (erase p rows).find? q = rows.find? q := by
  rw [erase, List.find?_filter]
  congr 1
  funext b
  cases hq : q b with
  | true => simp [h b hq]
  | false => simp

/-- The row with the least key is a row. -/
theorem mem_of_firstByKey_eq_some {key : α → ℕ} {a : α} {rows : List α}
    (h : firstByKey key rows = some a) : a ∈ rows := by
  induction rows generalizing a with
  | nil => cases h
  | cons b rows ih =>
      rw [firstByKey] at h
      split at h
      · cases h
        exact List.mem_cons_self
      · rename_i c hc
        split at h
        · cases h
          exact List.mem_cons_of_mem _ (ih hc)
        · cases h
          exact List.mem_cons_self

/-- In a table with distinct keys a row is found by its key. -/
theorem find?_of_mem {key : α → κ} {a : α} {rows : List α} (hnodup : (rows.map key).Nodup)
    (h : a ∈ rows) : rows.find? (fun b => key b = key a) = some a := by
  cases hfind : rows.find? (fun b => key b = key a) with
  | none =>
      have hself := List.find?_eq_none.mp hfind a h
      exact absurd (decide_eq_true rfl) hself
  | some b =>
      have hfound := List.find?_some hfind
      rw [List.inj_on_of_nodup_map hnodup (List.mem_of_find?_eq_some hfind) h
        (of_decide_eq_true hfound)]

omit [DecidableEq κ] in
/-- Giving one row a new value in an optional unique column keeps the column's values distinct. -/
theorem nodup_filterMap_assign {γ : Type} {key : α → κ} {col : α → Option γ} {f : α → α} {k : κ}
    {v : γ} {rows : List α} (hkeys : (rows.map key).Nodup) (hcol : (rows.filterMap col).Nodup)
    (hnew : ∀ a ∈ rows, col a ≠ some v)
    (hf : ∀ a, col (f a) = col a ∨ key a = k ∧ col (f a) = some v) :
    ((rows.map f).filterMap col).Nodup := by
  rw [List.filterMap_map, List.Nodup, List.pairwise_filterMap]
  rw [List.Nodup, List.pairwise_map] at hkeys
  rw [List.Nodup, List.pairwise_filterMap] at hcol
  refine (hkeys.and hcol).imp_of_mem ?_
  rintro a b ha hb ⟨hne, hold⟩ x hx y hy
  replace hx : col (f a) = some x := hx
  replace hy : col (f b) = some y := hy
  rcases hf a with hfa | ⟨hka, hfa⟩ <;> rcases hf b with hfb | ⟨hkb, hfb⟩
  · exact hold x (hfa ▸ hx) y (hfb ▸ hy)
  · -- The value of `b` is new, so it is not the one `a` has had.
    rintro rfl
    exact hnew a ha (by rw [← hfa, hx, ← hy, hfb])
  · rintro rfl
    exact hnew b hb (by rw [← hfb, hy, ← hx, hfa])
  · exact absurd (hka.trans hkb.symm) hne

omit [DecidableEq κ] in
/-- In a table with distinct keys, an optional unique column has distinct values exactly when rows
of different keys have different values in it. -/
theorem nodup_filterMap_iff {γ : Type} {key : α → κ} {col : α → Option γ} {rows : List α}
    (hkeys : (rows.map key).Nodup) :
    (rows.filterMap col).Nodup ↔
      ∀ a ∈ rows, ∀ b ∈ rows, key a ≠ key b → ∀ v, col a = some v → col b ≠ some v := by
  rw [List.Nodup, List.pairwise_filterMap]
  constructor
  · intro hcol a ha b hb hne v hva hvb
    have : Std.Symm fun a b => ∀ x, col a = some x → ∀ y, col b = some y → x ≠ y :=
      ⟨fun a b h y hy x hx => (h x hx y hy).symm⟩
    exact hcol.forall ha hb (fun hab => hne (hab ▸ rfl)) v hva v hvb rfl
  · intro hcol
    rw [List.Nodup, List.pairwise_map] at hkeys
    refine hkeys.imp_of_mem fun {a b} ha hb hne x hx y hy hxy => ?_
    exact hcol a ha b hb hne x hx (hxy ▸ hy)

/-- A write keeps an optional unique column distinct exactly when no other row has the new value. -/
theorem nodup_filterMap_upsert_iff {γ : Type} {key : α → κ} {col : α → Option γ} {a : α}
    {rows : List α} (hkeys : (rows.map key).Nodup) (hcol : (rows.filterMap col).Nodup) :
    ((upsert key a rows).filterMap col).Nodup ↔
      ∀ b ∈ rows, key b ≠ key a → ∀ v, col a = some v → col b ≠ some v := by
  rw [nodup_filterMap_iff (nodup_map_key_upsert hkeys)]
  rw [nodup_filterMap_iff hkeys] at hcol
  constructor
  · intro h b hb hne v hva
    exact h a (mem_upsert.mpr (Or.inl rfl)) b (mem_upsert.mpr (Or.inr ⟨hb, hne⟩)) (Ne.symm hne) v
      hva
  · intro h b hb c hc hne v hvb hvc
    rcases mem_upsert.mp hb with rfl | ⟨hb', hba⟩ <;> rcases mem_upsert.mp hc with rfl | ⟨hc', hca⟩
    · exact hne rfl
    · exact h c hc' hca v hvb hvc
    · exact h b hb' hba v hvc hvb
    · exact hcol b hb' c hc' hne v hvb hvc

omit [DecidableEq κ] in
/-- In a table with distinct keys at most one row satisfies a condition exactly when the rows that
satisfy it have one key. -/
theorem length_filter_le_one_iff {key : α → κ} {p : α → Bool} {rows : List α}
    (hnodup : (rows.map key).Nodup) :
    (rows.filter p).length ≤ 1 ↔
      ∀ a ∈ rows, ∀ b ∈ rows, p a = true → p b = true → key a = key b := by
  have hkept : ((rows.filter p).map key).Nodup :=
    hnodup.sublist (List.filter_sublist.map key)
  constructor
  · intro hone a ha b hb hpa hpb
    have ha' : a ∈ rows.filter p := List.mem_filter.mpr ⟨ha, hpa⟩
    have hb' : b ∈ rows.filter p := List.mem_filter.mpr ⟨hb, hpb⟩
    match hrows : rows.filter p, hone with
    | [], _ =>
        rw [hrows] at ha'
        exact absurd ha' List.not_mem_nil
    | [c], _ =>
        rw [hrows] at ha' hb'
        rw [List.mem_singleton.mp ha', List.mem_singleton.mp hb']
  · intro hkeys
    match hrows : rows.filter p with
    | [] => exact Nat.zero_le 1
    | [_] => exact le_refl 1
    | a :: b :: rest =>
        -- Two rows of the selection would have one key.
        have ha : a ∈ rows.filter p := by rw [hrows]; simp
        have hb : b ∈ rows.filter p := by rw [hrows]; simp
        obtain ⟨ha, hpa⟩ := List.mem_filter.mp ha
        obtain ⟨hb, hpb⟩ := List.mem_filter.mp hb
        rw [hrows] at hkept
        simp [hkeys a ha b hb hpa hpb] at hkept

/-- Rows of `distinctOn` are rows of the table. -/
theorem mem_of_mem_distinctOn {col : α → κ} {a : α} {rows : List α}
    (h : a ∈ distinctOn col rows) : a ∈ rows := by
  induction rows with
  | nil => exact h
  | cons b rows ih =>
      rcases List.mem_cons.mp h with rfl | hmem
      · exact List.mem_cons_self
      · exact List.mem_cons_of_mem _ (ih (List.mem_filter.mp hmem).1)

/-- Every row of the table is represented in `distinctOn` by one with the same column value. -/
theorem exists_mem_distinctOn (col : α → κ) {a : α} {rows : List α} (h : a ∈ rows) :
    ∃ b ∈ distinctOn col rows, col b = col a := by
  induction rows with
  | nil => exact absurd h List.not_mem_nil
  | cons c rows ih =>
      by_cases hca : col c = col a
      · exact ⟨c, List.mem_cons_self, hca⟩
      · have hmem : a ∈ rows := by
          rcases List.mem_cons.mp h with rfl | hmem
          · exact absurd rfl hca
          · exact hmem
        obtain ⟨b, hb, hba⟩ := ih hmem
        refine ⟨b, List.mem_cons_of_mem _ (List.mem_filter.mpr ⟨hb, ?_⟩), hba⟩
        simp only [decide_not, Bool.not_eq_true', decide_eq_false_iff_not]
        exact fun hbc => hca (hbc.symm.trans hba)

/-- The column values of `distinctOn` are pairwise distinct. -/
theorem distinctOn_nodup (col : α → κ) (rows : List α) :
    ((distinctOn col rows).map col).Nodup := by
  induction rows with
  | nil => simp [distinctOn]
  | cons a rows ih =>
      rw [distinctOn, List.map_cons, List.nodup_cons]
      constructor
      · intro hmem
        obtain ⟨b, hb, hba⟩ := List.mem_map.mp hmem
        simpa [hba] using (List.mem_filter.mp hb).2
      · exact ih.sublist ((List.filter_sublist).map col)

/-- `distinctOn` keeps exactly one row for each column value that occurs. -/
theorem exists_filter_distinctOn (col : α → κ) {a : α} {rows : List α} (h : a ∈ rows) :
    ∃ b ∈ rows, col b = col a ∧ (distinctOn col rows).filter (fun c => col c = col a) = [b] := by
  obtain ⟨b, hb, hba⟩ := exists_mem_distinctOn col h
  refine ⟨b, mem_of_mem_distinctOn hb, hba, ?_⟩
  -- The kept rows with the value of `b` have distinct values, so there is one of them.
  have hnodup := (distinctOn_nodup col rows).filter (fun k => k = col a)
  rw [List.filter_map] at hnodup
  have hmem : b ∈ (distinctOn col rows).filter (fun c => col c = col a) :=
    List.mem_filter.mpr ⟨hb, by simpa using hba⟩
  cases hfilter : (distinctOn col rows).filter (fun c => col c = col a) with
  | nil => exact absurd (hfilter ▸ hmem) List.not_mem_nil
  | cons c rest =>
      have hcol : ∀ d ∈ c :: rest, col d = col a := by
        intro d hd
        rw [← hfilter] at hd
        exact of_decide_eq_true (List.mem_filter.mp hd).2
      have hsub : ((c :: rest).map col).Nodup := by
        rw [← hfilter]
        exact hnodup
      cases rest with
      | nil =>
          rw [hfilter] at hmem
          rw [List.mem_singleton.mp hmem]
      | cons d rest =>
          have hcd : col c = col d :=
            (hcol c (by simp)).trans (hcol d (by simp)).symm
          simp [hcd] at hsub

end Table
