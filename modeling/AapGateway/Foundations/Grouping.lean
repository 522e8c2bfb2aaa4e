import Mathlib
import AapGateway.Foundations.Dict

/-!
# Grouping by a key

A dictionary of lists that is filled by appending each item to the list of its key, where a key that
is not there yet is added at the end.

## Main results

* `mem_group_iff`: the list of a key is what has that key, in its order;
* `perm_flatMap_group`: the lists together are the items;
* `Dict.perm_flatMap_order`: a dictionary can be read in any order of its keys.
-/

namespace Grouping

variable {α κ : Type} [DecidableEq κ]

/-- Append an item to the list of its key. -/
def add (k : κ) (a : α) : List (κ × List α) → List (κ × List α)
  | [] => [(k, [a])]
  | (k', as) :: groups =>
    if k' = k then (k', as ++ [a]) :: groups else (k', as) :: add k a groups

/-- The lists of the keys, in the order in which the keys occur. -/
def group (key : α → κ) (items : List α) : List (κ × List α) :=
  items.foldl (fun groups a => add (key a) a groups) []

variable {key : α → κ} {k : κ} {a : α} {as items : List α} {groups : List (κ × List α)}

/-- The keys after an item is added. -/
theorem mem_map_fst_add {k' : κ} :
    k' ∈ (add k a groups).map Prod.fst ↔ k' = k ∨ k' ∈ groups.map Prod.fst := by
  induction groups with
  | nil => simp [add]
  | cons g groups ih =>
      rw [add]
      split
      · rename_i hg
        simp [← hg]
      · rw [List.map_cons, List.mem_cons, ih, List.map_cons, List.mem_cons]
        tauto

/-- The keys stay distinct. -/
theorem nodup_add (h : (groups.map Prod.fst).Nodup) : ((add k a groups).map Prod.fst).Nodup := by
  induction groups with
  | nil => simp [add]
  | cons g groups ih =>
      rw [List.map_cons, List.nodup_cons] at h
      rw [add]
      split
      · exact List.nodup_cons.mpr h
      · rename_i hg
        refine List.nodup_cons.mpr ⟨fun hmem => ?_, ih h.2⟩
        exact (mem_map_fst_add.mp hmem).elim hg h.1

/-- One more item is in the lists. -/
theorem perm_flatMap_add :
    ((add k a groups).flatMap Prod.snd).Perm (groups.flatMap Prod.snd ++ [a]) := by
  induction groups with
  | nil => exact List.Perm.refl _
  | cons g groups ih =>
      rw [add]
      split
      · rw [List.flatMap_cons, List.flatMap_cons, List.append_assoc, List.append_assoc]
        exact List.perm_append_comm.append_left g.2
      · rw [List.flatMap_cons, List.flatMap_cons, List.append_assoc]
        exact ih.append_left g.2

/-- The list of a key that is there, after an item is added. -/
theorem mem_add_iff (h : (groups.map Prod.fst).Nodup) {k' : κ} :
    (k', as) ∈ add k a groups ↔
      k' ≠ k ∧ (k', as) ∈ groups ∨
        k' = k ∧ ((∃ bs, (k, bs) ∈ groups ∧ as = bs ++ [a]) ∨
          k ∉ groups.map Prod.fst ∧ as = [a]) := by
  induction groups with
  | nil => simp [add]
  | cons g groups ih =>
      obtain ⟨kg, bs⟩ := g
      rw [List.map_cons, List.nodup_cons] at h
      rw [add]
      split
      · rename_i hg
        obtain rfl : kg = k := hg
        have hout : ∀ cs, (kg, cs) ∉ groups :=
          fun cs hmem => h.1 (List.mem_map.mpr ⟨(kg, cs), hmem, rfl⟩)
        by_cases hk : k' = kg
        · subst hk
          simp [hout]
        · simp [hk]
      · rename_i hg
        rw [List.mem_cons, ih h.2]
        by_cases hk : k' = k
        · subst hk
          simp [Ne.symm hg]
        · simp [hk]

/-- The keys of the groups are distinct. -/
theorem nodup_group (key : α → κ) (items : List α) : ((group key items).map Prod.fst).Nodup := by
  induction items using List.reverseRecOn with
  | nil => exact List.nodup_nil
  | append_singleton items a ih =>
      rw [group, List.foldl_append]
      exact nodup_add ih

/-- Every item is in one list, once. -/
theorem perm_flatMap_group (key : α → κ) (items : List α) :
    ((group key items).flatMap Prod.snd).Perm items := by
  induction items using List.reverseRecOn with
  | nil => exact List.Perm.refl _
  | append_singleton items a ih =>
      rw [group, List.foldl_append]
      exact perm_flatMap_add.trans (ih.append_right [a])

/-- The list of a key is what has that key, in its order, and only keys that occur have one. -/
theorem mem_group_iff : (k, as) ∈ group key items ↔ as = items.filter (key · = k) ∧ as ≠ [] := by
  induction items using List.reverseRecOn generalizing as with
  | nil => simp [group]
  | append_singleton items a ih =>
      have hkey : k ∈ (group key items).map Prod.fst ↔ items.filter (key · = k) ≠ [] := by
        rw [List.mem_map]
        constructor
        · rintro ⟨⟨k', bs⟩, hmem, rfl⟩
          exact (ih.mp hmem).1 ▸ (ih.mp hmem).2
        · exact fun hne => ⟨(k, _), ih.mpr ⟨rfl, hne⟩, rfl⟩
      rw [group, List.foldl_append]
      show (k, as) ∈ add (key a) a (group key items) ↔ _
      rw [mem_add_iff (nodup_group key items), List.filter_append]
      by_cases hk : k = key a
      · subst hk
        rw [List.filter_cons_of_pos (by simp), List.filter_nil, hkey, not_not]
        constructor
        · rintro (⟨hne, -⟩ | ⟨-, ⟨bs, hbs, rfl⟩ | ⟨hnil, rfl⟩⟩)
          · exact absurd rfl hne
          · rw [(ih.mp hbs).1]
            exact ⟨rfl, List.append_ne_nil_of_right_ne_nil _ (List.cons_ne_nil _ _)⟩
          · rw [hnil]
            exact ⟨rfl, List.cons_ne_nil _ _⟩
        · rintro ⟨rfl, -⟩
          refine Or.inr ⟨rfl, ?_⟩
          by_cases hnil : items.filter (key · = key a) = []
          · exact Or.inr ⟨hnil, by rw [hnil]; rfl⟩
          · exact Or.inl ⟨_, ih.mpr ⟨rfl, hnil⟩, rfl⟩
      · -- The item goes to another list.
        rw [List.filter_cons_of_neg (by simpa using Ne.symm hk), List.filter_nil, List.append_nil,
          ← ih]
        constructor
        · rintro (⟨-, hmem⟩ | ⟨heq, -⟩)
          · exact hmem
          · exact absurd heq hk
        · exact fun hmem => Or.inl ⟨hk, hmem⟩

end Grouping

namespace Dict

variable {β γ : Type}

/-- Append a value to the list of a key. -/
def append (d : Dict (List β)) (key : String) (v : β) : Dict (List β) where
  items := Grouping.add key v d.items
  nodup := Grouping.nodup_add d.nodup

/-- Appending the values one after the other groups them by their keys. -/
theorem items_foldl_append (key : β → String) (values : List β) :
    (values.foldl (fun d v => d.append (key v) v) empty).items = Grouping.group key values := by
  induction values using List.reverseRecOn with
  | nil => rfl
  | append_singleton values v ih =>
      rw [List.foldl_append, Grouping.group, List.foldl_append]
      show Grouping.add (key v) v (values.foldl _ empty).items = _
      rw [ih]
      rfl

/-- Reading a dictionary key by key, in any order that has all keys, reads its items. -/
theorem perm_flatMap_order (d : Dict β) (f : String → β → List γ) {order : List String}
    (hnodup : order.Nodup) (hkeys : ∀ item ∈ d.items, item.1 ∈ order) :
    (order.flatMap fun key => (d.get? key).elim [] (f key)).Perm
      (d.items.flatMap fun item => f item.1 item.2) := by
  -- Only the keys that are there contribute.
  have hdrop : ∀ keys : List String, (keys.flatMap fun key => (d.get? key).elim [] (f key)) =
      (keys.filter (· ∈ d.items.map Prod.fst)).flatMap
        fun key => (d.get? key).elim [] (f key) := by
    intro keys
    induction keys with
    | nil => rfl
    | cons key keys ih =>
        by_cases hkey : key ∈ d.items.map Prod.fst
        · rw [List.filter_cons_of_pos (by simpa using hkey), List.flatMap_cons, List.flatMap_cons,
            ih]
        · rw [List.filter_cons_of_neg (by simpa using hkey), List.flatMap_cons, ih,
            (get?_eq_none d).mpr hkey]
          rfl
  have hsame : (order.filter (· ∈ d.items.map Prod.fst)).Perm (d.items.map Prod.fst) := by
    refine (List.perm_ext_iff_of_nodup (hnodup.filter _) d.nodup).mpr fun key => ?_
    rw [List.mem_filter, decide_eq_true_iff]
    refine and_iff_right_of_imp fun hkey => ?_
    obtain ⟨item, hitem, rfl⟩ := List.mem_map.mp hkey
    exact hkeys item hitem
  have hitems : (d.items.map Prod.fst).flatMap (fun key => (d.get? key).elim [] (f key)) =
      d.items.flatMap fun item => f item.1 item.2 := by
    rw [List.flatMap_map]
    refine List.flatMap_congr fun item hitem => ?_
    rw [(get?_eq_some d).mpr hitem]
    rfl
  rw [hdrop, ← hitems]
  exact hsame.flatMap_right _

end Dict
