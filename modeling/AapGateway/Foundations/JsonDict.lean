import AapGateway.Foundations.Dict
import AapGateway.Foundations.Json

/-!
# JSON values as Python values

What Python makes of a decoded JSON value: an object is a dictionary, and every value has a truth
value.

## Main definitions

* `Json.asDict?`: the dictionary of an object;
* `Json.truthy`: the truth value;
* `Dict.mapValues` and `Dict.mapValues?`: a dictionary with every value replaced, where in the
  second a replacement may fail.
-/

/-- The members of an object, as a dictionary. -/
def Json.asDict? : Json → Option (Dict Json)
  | .obj members => some (Dict.ofList members)
  | _ => none

/-- A number that is zero: only zeros before the exponent. -/
def Json.Number.isZero (n : Json.Number) : Bool :=
  (n.literal.takeWhile fun c => c ≠ 'e' ∧ c ≠ 'E').all fun c => c = '0' || c = '.' || c = '-'

/-- The truth value of a value in Python. -/
def Json.truthy : Json → Bool
  | .null => false
  | .bool b => b
  | .num n => !n.isZero
  | .str s => s ≠ ""
  | .arr elements => !elements.isEmpty
  | .obj members => !members.isEmpty

section Lists

variable {α β : Type} {f : α → Option β} {as : List α}

/-- Each element on the left has one on the right that it is related to. -/
theorem List.Forall₂.exists_of_mem_left {R : α → β → Prop} {bs : List β} (h : List.Forall₂ R as bs)
    {a : α} (ha : a ∈ as) : ∃ b ∈ bs, R a b := by
  induction h with
  | nil => exact absurd ha List.not_mem_nil
  | cons hab _ ih =>
      rcases List.mem_cons.mp ha with rfl | hmem
      · exact ⟨_, List.mem_cons_self, hab⟩
      · obtain ⟨b, hb, hR⟩ := ih hmem
        exact ⟨b, List.mem_cons_of_mem _ hb, hR⟩

/-- Each element on the right has one on the left that is related to it. -/
theorem List.Forall₂.exists_of_mem_right {R : α → β → Prop} {bs : List β}
    (h : List.Forall₂ R as bs) {b : β} (hb : b ∈ bs) : ∃ a ∈ as, R a b :=
  h.flip.exists_of_mem_left hb

/-- The results of a list of steps that all succeed, step by step. -/
theorem List.mapM_eq_some_iff {bs : List β} :
    as.mapM f = some bs ↔ List.Forall₂ (fun a b => f a = some b) as bs := by
  induction as generalizing bs with
  | nil => simp [eq_comm]
  | cons a as ih =>
      rw [List.mapM_cons, List.forall₂_cons_left_iff]
      constructor
      · intro h
        obtain ⟨b, hb, h⟩ := Option.bind_eq_some_iff.mp h
        obtain ⟨rest, hrest, h⟩ := Option.bind_eq_some_iff.mp h
        exact ⟨b, rest, hb, ih.mp hrest, (Option.some.inj h).symm⟩
      · rintro ⟨b, rest, hb, hrest, rfl⟩
        rw [hb, ih.mpr hrest]
        rfl

/-- A list of steps succeeds exactly if each of them does. -/
theorem List.isSome_mapM_iff : (as.mapM f).isSome = true ↔ ∀ a ∈ as, (f a).isSome = true := by
  induction as with
  | nil => simp
  | cons a as ih =>
      rw [List.mapM_cons, List.forall_mem_cons, ← ih]
      cases f a with
      | none => simp
      | some b => cases as.mapM f <;> simp

end Lists

namespace Dict

/-- `data.get(key)` of a value's dictionary, a null being no value. -/
def value? (data : Dict Json) (key : String) : Option Json :=
  match data.get? key with
  | some .null => none
  | v => v

variable {β γ : Type}

/-- At most one item is new when a key is set. -/
theorem length_items_set_le (d : Dict β) (key : String) (v : β) :
    (d.set key v).items.length ≤ d.items.length + 1 := by
  show (Table.upsert Prod.fst (key, v) d.items).length ≤ _
  unfold Table.upsert
  split
  · rw [List.length_map]
    exact Nat.le_succ _
  · rw [List.length_append, List.length_singleton]

/-- A key that is there keeps its place. -/
theorem items_set_of_mem {d : Dict β} {key : String} (h : key ∈ d.items.map Prod.fst) (v : β) :
    (d.set key v).items = d.items.map fun item => if item.1 = key then (key, v) else item := by
  obtain ⟨item, hitem, hkey⟩ := List.mem_map.mp h
  exact if_pos (List.any_eq_true.mpr ⟨item, hitem, decide_eq_true hkey⟩)

/-- The dictionary with every value replaced. -/
def mapValues (f : β → γ) (d : Dict β) : Dict γ where
  items := d.items.map fun item => (item.1, f item.2)
  nodup := by
    rw [List.map_map]
    exact d.nodup

/-- The items with every value replaced. -/
def mapItems? (f : β → Option γ) (items : List (String × β)) : Option (List (String × γ)) :=
  items.mapM fun item => (f item.2).map (item.1, ·)

/-- The items are replaced one by one. -/
theorem mapItems?_eq_some {f : β → Option γ} {items : List (String × β)}
    {items' : List (String × γ)} :
    mapItems? f items = some items' ↔
      List.Forall₂ (fun item item' => item.1 = item'.1 ∧ f item.2 = some item'.2) items items' := by
  rw [mapItems?, List.mapM_eq_some_iff]
  refine iff_of_eq (congrFun (congrFun (congrArg _ ?_) _) _)
  funext item item'
  rw [Option.map_eq_some_iff]
  refine propext ⟨?_, fun ⟨hkey, hvalue⟩ => ⟨item'.2, hvalue, Prod.ext hkey rfl⟩⟩
  rintro ⟨w, hw, rfl⟩
  exact ⟨rfl, hw⟩

/-- The keys stay. -/
theorem map_fst_mapItems? {f : β → Option γ} {items : List (String × β)}
    {items' : List (String × γ)} (h : mapItems? f items = some items') :
    items'.map Prod.fst = items.map Prod.fst := by
  have hitems := mapItems?_eq_some.mp h
  clear h
  induction hitems with
  | nil => rfl
  | cons hitem _ ih => rw [List.map_cons, List.map_cons, ih, hitem.1]

/-- The dictionary with every value replaced, unless one cannot be. -/
def mapValues? (f : β → Option γ) (d : Dict β) : Option (Dict γ) :=
  match h : mapItems? f d.items with
  | none => none
  | some items => some { items, nodup := by rw [map_fst_mapItems? h]; exact d.nodup }

/-- The replaced values, item by item. -/
theorem mapValues?_eq_some {f : β → Option γ} {d : Dict β} {d' : Dict γ} :
    d.mapValues? f = some d' ↔ List.Forall₂
      (fun item item' => item.1 = item'.1 ∧ f item.2 = some item'.2) d.items d'.items := by
  rw [← mapItems?_eq_some]
  unfold mapValues?
  split
  · rename_i hnone
    simp [hnone]
  · rename_i items hsome
    rw [Option.some_inj, Dict.ext_iff]
    exact ⟨fun h => hsome.trans (congrArg some h), fun h => Option.some.inj (hsome.symm.trans h)⟩

/-- The values can be replaced exactly if each of them can. -/
theorem isSome_mapValues?_iff {f : β → Option γ} {d : Dict β} :
    (d.mapValues? f).isSome = true ↔ ∀ item ∈ d.items, (f item.2).isSome = true := by
  have hitems : (mapItems? f d.items).isSome = true ↔
      ∀ item ∈ d.items, (f item.2).isSome = true := by
    simp only [mapItems?, List.isSome_mapM_iff, Option.isSome_map]
  rw [← hitems]
  unfold mapValues?
  split
  · rename_i hnone
    simp [hnone]
  · rename_i items hsome
    simp [hsome]

end Dict
