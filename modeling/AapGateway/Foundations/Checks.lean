import AapGateway.Foundations.JsonDict

/-!
# Checks with messages

A validator makes its checks one after the other, and the first one that fails gives the message. It
accepts exactly what passes all of them, whatever their order is.

## Main definitions

* `Checks.ensure`: a check;
* `Checks.attach`: a step with what its results are known to satisfy;
* `Checks.text`: a JSON value is a string with a property;
* `Checks.mapItems`: the values of a dictionary are checked one by one.

## Main results

* `Checks.bind_eq_ok`, `Checks.mapM_eq_ok`: when several checks pass.
-/

namespace Checks

variable {ε α β γ : Type}

/-- A condition that must hold. -/
def ensure (p : Prop) [Decidable p] (e : ε) : Except ε Unit :=
  if p then .ok () else .error e

/-- A check passes exactly if its condition holds. -/
@[simp]
theorem ensure_eq_ok {p : Prop} [Decidable p] {e : ε} {u : Unit} : ensure p e = .ok u ↔ p := by
  rw [ensure]
  split_ifs with hp
  · simp [hp]
  · simp [hp]

/-- A step and the rest pass. -/
theorem bind_eq_ok {x : Except ε α} {f : α → Except ε β} {b : β} :
    x >>= f = .ok b ↔ ∃ a, x = .ok a ∧ f a = .ok b := by
  rcases x with e | a
  · simp [bind, Except.bind]
  · simp [bind, Except.bind]

/-- A check and the rest pass. -/
@[simp]
theorem ensure_bind_eq_ok {p : Prop} [Decidable p] {e : ε} {f : Unit → Except ε β} {b : β} :
    ensure p e >>= f = .ok b ↔ p ∧ f () = .ok b := by
  rw [bind_eq_ok]
  constructor
  · rintro ⟨u, hu, hrest⟩
    exact ⟨ensure_eq_ok.mp hu, hrest⟩
  · rintro ⟨hp, hrest⟩
    exact ⟨(), ensure_eq_ok.mpr hp, hrest⟩

/-- A step and a function of its result. -/
theorem map_eq_ok {x : Except ε α} {f : α → β} {b : β} :
    f <$> x = .ok b ↔ ∃ a, x = .ok a ∧ f a = b := by
  rcases x with e | a
  · simp [Functor.map, Except.map]
  · simp [Functor.map, Except.map]

/-- The results of a list of steps that all pass. -/
theorem mapM_eq_ok {f : α → Except ε β} {as : List α} {bs : List β} :
    as.mapM f = .ok bs ↔ List.Forall₂ (fun a b => f a = .ok b) as bs := by
  induction as generalizing bs with
  | nil => simp [pure, Except.pure, eq_comm]
  | cons a as ih =>
      rw [List.mapM_cons, bind_eq_ok, List.forall₂_cons_left_iff]
      constructor
      · rintro ⟨b, hb, hrest⟩
        obtain ⟨rest, hmap, hpure⟩ := bind_eq_ok.mp hrest
        cases hpure
        exact ⟨b, rest, hb, ih.mp hmap, rfl⟩
      · rintro ⟨b, rest, hb, hrest, rfl⟩
        exact ⟨b, hb, bind_eq_ok.mpr ⟨rest, ih.mpr hrest, rfl⟩⟩

/-- A list of steps, where each of them says what its argument has been. -/
theorem mapM_eq_ok_of_iff {f : α → Except ε β} {write : β → α}
    (hf : ∀ a b, f a = .ok b ↔ a = write b) {as : List α} {bs : List β} :
    as.mapM f = .ok bs ↔ as = bs.map write := by
  simp only [mapM_eq_ok, hf]
  constructor
  · intro h
    induction h with
    | nil => rfl
    | cons hhead _ ih => rw [List.map_cons, ← hhead, ← ih]
  · rintro rfl
    rw [List.forall₂_map_left_iff]
    exact List.forall₂_same.mpr fun b _ => rfl

/-- A step together with what its results are known to satisfy. -/
def attach {P : α → Prop} : (x : Except ε α) → (∀ a, x = .ok a → P a) → Except ε {a // P a}
  | .error e, _ => .error e
  | .ok a, h => .ok ⟨a, h a rfl⟩

/-- The step passes as it does alone. -/
@[simp]
theorem attach_eq_ok {P : α → Prop} {x : Except ε α} {h : ∀ a, x = .ok a → P a}
    {a : {a // P a}} : attach x h = .ok a ↔ x = .ok a.val := by
  rcases x with e | b
  · simp [attach]
  · simp [attach, Subtype.ext_iff]

/-! ### Texts -/

/-- The texts with a property. -/
abbrev Matching (p : String → Bool) : Type :=
  {s : String // p s = true}

/-- A value is a string with a property. -/
def text (p : String → Bool) (e : ε) : Json → Except ε (Matching p)
  | .str s => if h : p s = true then .ok ⟨s, h⟩ else .error e
  | _ => .error e

/-- The string that has been accepted. -/
theorem text_eq_ok {p : String → Bool} {e : ε} {v : Json} {s : Matching p} :
    text p e v = .ok s ↔ v = .str s.val := by
  constructor
  · intro h
    rcases v with _ | b | n | t | vs | kvs
    all_goals try cases h
    rw [text] at h
    split_ifs at h with ht
    cases h
    rfl
  · rintro rfl
    rw [text, dif_pos s.property]

/-- A value that is null or a string with a property. -/
def optionalText (p : String → Bool) (e : ε) : Json → Except ε (Option (Matching p))
  | .null => .ok none
  | v => some <$> text p e v

/-- What an optional string is written as. -/
def jsonOfOption {p : String → Bool} : Option (Matching p) → Json
  | none => .null
  | some s => .str s.val

/-- The optional string that has been accepted. -/
theorem optionalText_eq_ok {p : String → Bool} {e : ε} {v : Json} {s : Option (Matching p)} :
    optionalText p e v = .ok s ↔ v = jsonOfOption s := by
  have hsome : ∀ v : Json, some <$> text p e v = .ok s ↔ ∃ t, v = .str t.val ∧ some t = s := by
    intro v
    rw [map_eq_ok]
    simp only [text_eq_ok]
  constructor
  · intro h
    rcases v with _ | b | n | t | vs | kvs
    · cases h
      rfl
    all_goals
      obtain ⟨t', ht, rfl⟩ := (hsome _).mp h
      exact ht
  · rintro rfl
    rcases s with _ | s
    · rfl
    · exact (hsome _).mpr ⟨s, rfl, rfl⟩

/-- A value is a boolean. -/
def boolean (e : ε) : Json → Except ε Bool
  | .bool b => .ok b
  | _ => .error e

/-- The boolean that has been accepted. -/
theorem boolean_eq_ok {e : ε} {v : Json} {b : Bool} : boolean e v = .ok b ↔ v = .bool b := by
  constructor
  · intro h
    rcases v with _ | b' | n | t | vs | kvs
    all_goals cases h
    rfl
  · rintro rfl
    rfl

/-- A value is a list. -/
def array (e : ε) : Json → Except ε (List Json)
  | .arr vs => .ok vs
  | _ => .error e

/-- The list that has been accepted. -/
theorem array_eq_ok {e : ε} {v : Json} {vs : List Json} : array e v = .ok vs ↔ v = .arr vs := by
  constructor
  · intro h
    rcases v with _ | b | n | t | us | kvs
    all_goals cases h
    rfl
  · rintro rfl
    rfl

/-- A value is an object. -/
def object (e : ε) (v : Json) : Except ε (Dict Json) :=
  match v.asDict? with
  | some d => .ok d
  | none => .error e

/-- The object that has been accepted. -/
theorem object_eq_ok {e : ε} {v : Json} {d : Dict Json} :
    object e v = .ok d ↔ v.asDict? = some d := by
  rw [object]
  split
  · rename_i d' hd
    simp [hd]
  · rename_i hnone
    simp [hnone]

/-! ### Dictionaries -/

/-- The items with every value checked. -/
def mapItems (f : String → β → Except ε γ) (items : List (String × β)) :
    Except ε (List (String × γ)) :=
  items.mapM fun item => (f item.1 item.2).map (item.1, ·)

/-- The keys stay, and the values are the accepted ones. -/
theorem mapItems_eq_ok {f : String → β → Except ε γ} {items : List (String × β)}
    {items' : List (String × γ)} :
    mapItems f items = .ok items' ↔
      List.Forall₂ (fun item item' => item.1 = item'.1 ∧ f item.1 item.2 = .ok item'.2) items
        items' := by
  rw [mapItems, mapM_eq_ok]
  have hitem : ∀ (item : String × β) (item' : String × γ),
      (f item.1 item.2).map (item.1, ·) = .ok item' ↔
        item.1 = item'.1 ∧ f item.1 item.2 = .ok item'.2 := by
    intro item item'
    refine Iff.trans map_eq_ok ?_
    constructor
    · rintro ⟨c, hc, rfl⟩
      exact ⟨rfl, hc⟩
    · rintro ⟨hkey, hvalue⟩
      exact ⟨item'.2, hvalue, Prod.ext hkey rfl⟩
  simp only [hitem]

/-- The keys of related lists of items. -/
theorem map_fst_of_forall₂ {R : String × β → String × γ → Prop} {items : List (String × β)}
    {items' : List (String × γ)} (hR : ∀ item item', R item item' → item.1 = item'.1)
    (h : List.Forall₂ R items items') : items'.map Prod.fst = items.map Prod.fst := by
  induction h with
  | nil => rfl
  | cons hitem _ ih => rw [List.map_cons, List.map_cons, ih, hR _ _ hitem]

/-- The dictionary with every value checked. -/
def mapValues (f : String → β → Except ε γ) (d : Dict β) : Except ε (Dict γ) :=
  match h : mapItems f d.items with
  | .error e => .error e
  | .ok items =>
    .ok { items, nodup := by
            rw [map_fst_of_forall₂ (fun _ _ hitem => hitem.1) (mapItems_eq_ok.mp h)]
            exact d.nodup }

/-- The dictionary that has been accepted. -/
theorem mapValues_eq_ok {f : String → β → Except ε γ} {d : Dict β} {d' : Dict γ} :
    mapValues f d = .ok d' ↔ List.Forall₂
      (fun item item' => item.1 = item'.1 ∧ f item.1 item.2 = .ok item'.2) d.items d'.items := by
  rw [← mapItems_eq_ok]
  unfold mapValues
  split
  · rename_i e herror
    simp [herror]
  · rename_i items hok
    rw [Except.ok.injEq, Dict.ext_iff]
    constructor
    · rintro rfl
      exact hok
    · intro h
      exact Except.ok.inj (hok.symm.trans h)

/-- The dictionary that has been accepted, where every check says what the value has been. -/
theorem mapValues_eq_ok_of_iff {f : String → β → Except ε γ} {P : String → Prop} {write : γ → β}
    (hf : ∀ key v w, f key v = .ok w ↔ P key ∧ v = write w) {d : Dict β} {d' : Dict γ} :
    mapValues f d = .ok d' ↔ d = d'.mapValues write ∧ ∀ item ∈ d'.items, P item.1 := by
  have hitems : ∀ (items : List (String × β)) (items' : List (String × γ)),
      List.Forall₂ (fun item item' => item.1 = item'.1 ∧ f item.1 item.2 = .ok item'.2) items
        items' ↔
        items = items'.map (fun item => (item.1, write item.2)) ∧ ∀ item ∈ items', P item.1 := by
    intro items items'
    simp only [hf]
    constructor
    · intro h
      induction h with
      | nil => simp
      | @cons item item' items items' hitem _ ih =>
          obtain ⟨hkey, hP, hvalue⟩ := hitem
          rw [List.map_cons, List.forall_mem_cons, ← ih.1, ← hkey, ← hvalue]
          exact ⟨rfl, hP, ih.2⟩
    · rintro ⟨rfl, hP⟩
      rw [List.forall₂_map_left_iff]
      exact List.forall₂_same.mpr fun item hitem => ⟨rfl, hP item hitem, rfl⟩
  rw [mapValues_eq_ok, hitems, Dict.ext_iff]
  rfl

/-- Which dictionaries are written from other values. -/
theorem exists_eq_mapValues [Nonempty γ] {write : γ → β} {d : Dict β} :
    (∃ d' : Dict γ, d = d'.mapValues write) ↔ ∀ item ∈ d.items, ∃ w, item.2 = write w := by
  constructor
  · rintro ⟨d', rfl⟩ item hitem
    obtain ⟨item', -, rfl⟩ := List.mem_map.mp hitem
    exact ⟨item'.2, rfl⟩
  · intro h
    choose! read hread using h
    have hkeys : (d.items.map fun item => (item.1, read item)).map Prod.fst =
        d.items.map Prod.fst := List.map_map
    refine ⟨⟨d.items.map fun item => (item.1, read item), ?_⟩, ?_⟩
    · rw [hkeys]
      exact d.nodup
    · ext1
      show d.items = (d.items.map fun item => (item.1, read item)).map _
      rw [List.map_map]
      nth_rewrite 1 [← List.map_id d.items]
      apply List.map_congr_left
      intro item hitem
      exact Prod.ext rfl (hread item hitem)

end Checks
