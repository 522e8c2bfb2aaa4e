import AapGateway.Foundations.Table

/-!
# Dictionaries

A dictionary with text keys, as the list of its items in the order of their insertion. Setting a key
that is there replaces its value in place.

## Main results

* `get?_eq_some` and `get?_eq_none`: the values of a dictionary are its items;
* `get?_without`: what is left when some keys are taken out.
-/

/-- A dictionary. -/
@[ext]
structure Dict (β : Type) where
  /-- The items, in the order of insertion. -/
  items : List (String × β)
  /-- A key occurs once. -/
  nodup : (items.map Prod.fst).Nodup

namespace Dict

variable {β : Type} (d : Dict β)

/-- The value of a key. -/
def get? (key : String) : Option β := (d.items.find? (·.1 = key)).map (·.2)

/-- The dictionary without some keys. -/
def without (keys : List String) : Dict β where
  items := d.items.filter fun item => item.1 ∉ keys
  nodup := d.nodup.sublist (List.filter_sublist.map _)

/-- The dictionary with only some keys. -/
def only (keys : List String) : Dict β where
  items := d.items.filter fun item => item.1 ∈ keys
  nodup := d.nodup.sublist (List.filter_sublist.map _)

/-- The empty dictionary. -/
def empty : Dict β where
  items := []
  nodup := List.nodup_nil

/-- Setting the value of a key. -/
def set (key : String) (v : β) : Dict β where
  items := Table.upsert Prod.fst (key, v) d.items
  nodup := Table.nodup_map_key_upsert d.nodup

/-- Setting the value of a key that has none. -/
def setDefault (key : String) (v : β) : Dict β :=
  match d.get? key with
  | some _ => d
  | none => d.set key v

/-- The dictionary of a list of items, the last one of a key being the one that counts. -/
def ofList (items : List (String × β)) : Dict β :=
  items.foldl (fun d item => d.set item.1 item.2) empty

/-- The items of one dictionary set on another, as `{**d, **e}` does. -/
def merge (e : Dict β) : Dict β :=
  e.items.foldl (fun d item => d.set item.1 item.2) d

/-- The values that are left when some keys are taken out. -/
theorem get?_without (keys : List String) (key : String) :
    (d.without keys).get? key = if key ∈ keys then none else d.get? key := by
  unfold get? without
  split
  · rename_i hkey
    rw [Option.map_eq_none_iff, List.find?_eq_none]
    intro item hitem hsame
    have hout : item.1 ∉ keys := of_decide_eq_true (List.mem_filter.mp hitem).2
    exact hout (of_decide_eq_true hsame ▸ hkey)
  · rename_i hkey
    have hfind := Table.find?_erase (p := fun item : String × β => item.1 ∈ keys) d.items
      (q := fun item => item.1 = key) fun item hsame => by
        rw [of_decide_eq_true hsame]
        exact decide_eq_false hkey
    rw [← hfind, Table.erase]
    simp only [decide_not]

/-- The items after some are set one by one. -/
theorem items_foldl_set (items : List (String × β)) :
    (items.foldl (fun d item => d.set item.1 item.2) d).items =
      items.foldl (fun rows item => Table.upsert Prod.fst item rows) d.items := by
  induction items generalizing d with
  | nil => rfl
  | cons item items ih => exact ih (d.set item.1 item.2)

/-- A list with distinct keys is the list of items of its dictionary. -/
theorem items_ofList {items : List (String × β)} (h : (items.map Prod.fst).Nodup) :
    (ofList items).items = items := by
  rw [ofList, items_foldl_set]
  exact (@Table.foldl_upsert_of_nodup _ _ _ Prod.fst [] items h).trans (List.nil_append items)

/-- Taking out no key leaves the dictionary. -/
theorem without_nil : d.without [] = d := by
  ext1
  show d.items.filter _ = d.items
  rw [List.filter_eq_self]
  intro item _
  simp

/-- The value of a key after it was set. -/
theorem get?_set (key key' : String) (v : β) :
    (d.set key v).get? key' = if key' = key then some v else d.get? key' := by
  unfold get? set
  rw [Table.find?_upsert]
  split <;> rfl

/-- The value of a key after a default was set. -/
theorem get?_setDefault (key key' : String) (v : β) :
    (d.setDefault key v).get? key' =
      (d.get? key').or (if key' = key then some v else none) := by
  unfold setDefault
  split
  · next w hw =>
      by_cases hkey : key' = key
      · rw [hkey, hw, Option.some_or]
      · rw [if_neg hkey, Option.or_none]
  · next hnone =>
      rw [get?_set]
      by_cases hkey : key' = key
      · rw [if_pos hkey, if_pos hkey, hkey, hnone, Option.none_or]
      · rw [if_neg hkey, if_neg hkey, Option.or_none]

/-- A value is an item of its key. -/
theorem get?_eq_some {key : String} {v : β} : d.get? key = some v ↔ (key, v) ∈ d.items := by
  unfold get?
  constructor
  · intro h
    obtain ⟨item, hitem, rfl⟩ := Option.map_eq_some_iff.mp h
    have hkey := List.find?_some hitem
    rw [← of_decide_eq_true hkey]
    exact List.mem_of_find?_eq_some hitem
  · intro h
    have hfind := Table.find?_of_mem d.nodup h
    simp only at hfind
    rw [hfind]
    rfl

/-- A key without a value is no item's. -/
theorem get?_eq_none {key : String} : d.get? key = none ↔ key ∉ d.items.map Prod.fst := by
  unfold get?
  rw [Option.map_eq_none_iff, List.find?_eq_none, List.mem_map]
  constructor
  · rintro h ⟨item, hitem, rfl⟩
    exact h item hitem (decide_eq_true rfl)
  · intro h item hitem hkey
    exact h ⟨item, hitem, of_decide_eq_true hkey⟩

/-- The values of a merged dictionary: those of the second one, and else those of the first. -/
theorem get?_merge (e : Dict β) (key : String) :
    (d.merge e).get? key = (e.get? key).or (d.get? key) := by
  -- A key occurs once in the second dictionary, so the last item with it is the first.
  have hlast : e.items.reverse.find? (·.1 = key) = e.items.find? (·.1 = key) := by
    cases hfind : e.items.find? (·.1 = key) with
    | none =>
        rw [List.find?_eq_none] at hfind ⊢
        exact fun item hitem => hfind item (List.mem_reverse.mp hitem)
    | some item =>
        have hmem := List.mem_reverse.mpr (List.mem_of_find?_eq_some hfind)
        have hkeys : (e.items.reverse.map Prod.fst).Nodup := by
          rw [List.map_reverse]
          exact List.nodup_reverse.mpr e.nodup
        have hkey := List.find?_some hfind
        rw [← of_decide_eq_true hkey]
        exact Table.find?_of_mem hkeys hmem
  rw [merge, get?, items_foldl_set, Table.find?_foldl_upsert, hlast, get?, get?]
  cases e.items.find? (·.1 = key) with
  | none => rfl
  | some item => rfl

end Dict
