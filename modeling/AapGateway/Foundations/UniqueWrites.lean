import Mathlib.Data.List.Nodup
import Mathlib.Data.List.Perm.Basic
import Mathlib.Data.List.Dedup

/-!
# Writes under a unique key

The rows of one owner in a table that has a key of which each value occurs once, among the rows of
all owners. A plan is a list of writes to these rows. It is carried out up to the first write that
does not fit; the write collides if another owner has its key.

## Main definitions

* `Write` and `Write.after`: a write, and the rows after it;
* `Fits` and `Collides`: the plan can be carried out to the end, and it reaches a write with the key
  of another owner;
* `Reaches`: the plan reaches a write of some kind.

## Main results

* `fits_append` and `collides_append`: a plan after another one;
* `not_collides_of_fits`: a plan that can be carried out reaches no such write;
* `forall_mem_after`: what every write of a plan keeps holds of the rows after it;
* `fits_inserts_iff`: inserting rows, one after the other.
-/

namespace UniqueWrites

variable {α κ : Type} [DecidableEq α]

/-- A write to the rows of an owner, or what else a program does between two writes that can
fail. -/
inductive Write (α κ : Type) where
  | insert (row : α)
  | replace (row row' : α)
  | remove (p : α → Bool)
  /-- A check that no other owner has a key. -/
  | check (k : κ)
  /-- A failure that has nothing to do with keys. -/
  | fail

/-- The rows after a write. -/
def Write.after (own : List α) : Write α κ → List α
  | .insert row => own ++ [row]
  | .replace row row' => own.filter (· ≠ row) ++ [row']
  | .remove p => own.filter fun row => !p row
  | .check _ => own
  | .fail => own

/-- The rows after a plan. -/
def after (own : List α) (plan : List (Write α κ)) : List α := plan.foldl Write.after own

variable (key : α → κ) (foreign : κ → Prop)

/-- A write can be carried out: its key is in use neither by another owner nor by another row. -/
def Write.Fits (own : List α) : Write α κ → Prop
  | .insert row => ¬foreign (key row) ∧ key row ∉ own.map key
  | .replace row row' =>
    row ∈ own ∧ ¬foreign (key row') ∧ key row' ∉ (own.filter (· ≠ row)).map key
  | .remove _ => True
  | .check k => ¬foreign k
  | .fail => False

/-- Another owner has the key of a write. A row that is gone is not written. -/
def Write.Collides (own : List α) : Write α κ → Prop
  | .insert row => foreign (key row)
  | .replace row row' => row ∈ own ∧ foreign (key row')
  | _ => False

/-- A plan can be carried out to the end. -/
def Fits (own : List α) : List (Write α κ) → Prop
  | [] => True
  | w :: plan => w.Fits key foreign own ∧ Fits (w.after own) plan

/-- A plan reaches a write that collides. -/
def Collides (own : List α) : List (Write α κ) → Prop
  | [] => False
  | w :: plan => w.Collides key foreign own ∨ w.Fits key foreign own ∧ Collides (w.after own) plan

/-- A plan reaches a write of some kind: everything before it can be carried out. -/
def Reaches (kind : List α → Write α κ → Prop) (own : List α) : List (Write α κ) → Prop
  | [] => False
  | w :: plan => kind own w ∨ w.Fits key foreign own ∧ Reaches kind (w.after own) plan

variable {key foreign} {own : List α} {plan plan' : List (Write α κ)}

@[simp]
theorem after_nil : after own ([] : List (Write α κ)) = own := rfl

@[simp]
theorem after_cons (w : Write α κ) : after own (w :: plan) = after (w.after own) plan := rfl

@[simp]
theorem after_append : after own (plan ++ plan') = after (after own plan) plan' :=
  List.foldl_append

@[simp]
theorem fits_nil : Fits key foreign own [] := trivial

@[simp]
theorem fits_cons (w : Write α κ) :
    Fits key foreign own (w :: plan) ↔
      w.Fits key foreign own ∧ Fits key foreign (w.after own) plan := Iff.rfl

@[simp]
theorem not_collides_nil : ¬Collides key foreign own [] := id

@[simp]
theorem collides_cons (w : Write α κ) :
    Collides key foreign own (w :: plan) ↔
      w.Collides key foreign own ∨
        w.Fits key foreign own ∧ Collides key foreign (w.after own) plan := Iff.rfl

@[simp]
theorem not_reaches_nil {kind : List α → Write α κ → Prop} :
    ¬Reaches key foreign kind own [] := id

@[simp]
theorem reaches_cons {kind : List α → Write α κ → Prop} (w : Write α κ) :
    Reaches key foreign kind own (w :: plan) ↔
      kind own w ∨ w.Fits key foreign own ∧ Reaches key foreign kind (w.after own) plan := Iff.rfl

/-- A write that fits does not collide. -/
theorem Write.not_collides_of_fits {w : Write α κ} (h : w.Fits key foreign own) :
    ¬w.Collides key foreign own := by
  cases w with
  | insert row => exact h.1
  | replace row row' => exact fun hcollides => h.2.1 hcollides.2
  | remove p => exact id
  | check k => exact id
  | fail => exact id

/-- A plan after another one can be carried out if both can. -/
theorem fits_append :
    Fits key foreign own (plan ++ plan') ↔
      Fits key foreign own plan ∧ Fits key foreign (after own plan) plan' := by
  induction plan generalizing own with
  | nil => simp
  | cons w plan ih => rw [List.cons_append, fits_cons, fits_cons, ih, after_cons, and_assoc]

/-- A plan after another one collides if the first one does, or is carried out and the second one
does. -/
theorem collides_append :
    Collides key foreign own (plan ++ plan') ↔
      Collides key foreign own plan ∨
        Fits key foreign own plan ∧ Collides key foreign (after own plan) plan' := by
  induction plan generalizing own with
  | nil => simp
  | cons w plan ih =>
      rw [List.cons_append, collides_cons, collides_cons, fits_cons, after_cons, ih]
      tauto

/-- A plan that can be carried out does not collide. -/
theorem not_collides_of_fits (h : Fits key foreign own plan) : ¬Collides key foreign own plan := by
  induction plan generalizing own with
  | nil => exact id
  | cons w plan ih =>
      rintro (hw | ⟨-, hplan⟩)
      · exact Write.not_collides_of_fits h.1 hw
      · exact ih h.2 hplan

/-- A plan collides exactly if it reaches a write that does. -/
theorem collides_iff_reaches :
    Collides key foreign own plan ↔
      Reaches key foreign (fun own w => w.Collides key foreign own) own plan := by
  induction plan generalizing own with
  | nil => exact Iff.rfl
  | cons w plan ih => rw [collides_cons, reaches_cons, ih]

/-- What a plan after another one reaches. -/
theorem reaches_append {kind : List α → Write α κ → Prop} :
    Reaches key foreign kind own (plan ++ plan') ↔
      Reaches key foreign kind own plan ∨
        Fits key foreign own plan ∧ Reaches key foreign kind (after own plan) plan' := by
  induction plan generalizing own with
  | nil => simp
  | cons w plan ih =>
      rw [List.cons_append, reaches_cons, reaches_cons, fits_cons, after_cons, ih]
      tauto

/-- A write keeps a predicate of rows: what it inserts satisfies it, and what it puts in the place
of a row that does. -/
def Write.Keeps (P : α → Prop) : Write α κ → Prop
  | .insert row => P row
  | .replace row row' => P row → P row'
  | _ => True

/-- What holds of the rows holds after a write that keeps it. -/
theorem Write.forall_mem_after {P : α → Prop} {w : Write α κ} (hown : ∀ row ∈ own, P row)
    (hfits : w.Fits key foreign own) (hkeeps : w.Keeps P) : ∀ row ∈ w.after own, P row := by
  intro row hrow
  cases w with
  | insert row' =>
      rcases List.mem_append.mp hrow with hrow | hrow
      · exact hown row hrow
      · exact List.mem_singleton.mp hrow ▸ hkeeps
  | replace old row' =>
      rcases List.mem_append.mp hrow with hrow | hrow
      · exact hown row (List.mem_filter.mp hrow).1
      · exact List.mem_singleton.mp hrow ▸ hkeeps (hown old hfits.1)
  | remove p => exact hown row (List.mem_filter.mp hrow).1
  | check k => exact hown row hrow
  | fail => exact hown row hrow

/-- What holds of the rows, and is kept by every write, holds after a plan. -/
theorem forall_mem_after {P : α → Prop} (hown : ∀ row ∈ own, P row)
    (hfits : Fits key foreign own plan) (hkeeps : ∀ w ∈ plan, w.Keeps P) :
    ∀ row ∈ after own plan, P row := by
  induction plan generalizing own with
  | nil => exact hown
  | cons w plan ih =>
      rw [List.forall_mem_cons] at hkeeps
      exact ih (Write.forall_mem_after hown hfits.1 hkeeps.1) hfits.2 hkeeps.2

/-- The writes of a kind that a plan reaches are also of another kind, if this follows from what
every write keeps of the rows. -/
theorem Reaches.and {P : α → Prop} {kind kind' : List α → Write α κ → Prop}
    (h : Reaches key foreign kind own plan) (hown : ∀ row ∈ own, P row)
    (hkeeps : ∀ w ∈ plan, w.Keeps P)
    (hkind : ∀ w ∈ plan, ∀ own, (∀ row ∈ own, P row) → kind own w → kind' own w) :
    Reaches key foreign (fun own w => kind own w ∧ kind' own w) own plan := by
  induction plan generalizing own with
  | nil => exact h
  | cons w plan ih =>
      rw [List.forall_mem_cons] at hkeeps hkind
      rcases h with hw | ⟨hfits, hplan⟩
      · exact Or.inl ⟨hw, hkind.1 own hown hw⟩
      · exact Or.inr ⟨hfits, ih hplan (Write.forall_mem_after hown hfits hkeeps.1) hkeeps.2 hkind.2⟩

/-- Reaching a write of a narrower kind. -/
theorem Reaches.imp {kind kind' : List α → Write α κ → Prop}
    (h : Reaches key foreign kind own plan) (hkind : ∀ own w, kind own w → kind' own w) :
    Reaches key foreign kind' own plan := by
  induction plan generalizing own with
  | nil => exact h
  | cons w plan ih =>
      rcases h with hw | ⟨hfits, hplan⟩
      · exact Or.inl (hkind own w hw)
      · exact Or.inr ⟨hfits, ih hplan⟩

/-- A write that is reached is one of the plan. -/
theorem Reaches.exists_mem {kind : List α → Write α κ → Prop}
    (h : Reaches key foreign kind own plan) : ∃ w ∈ plan, ∃ own', kind own' w := by
  induction plan generalizing own with
  | nil => exact h.elim
  | cons w plan ih =>
      rcases h with hw | ⟨-, hplan⟩
      · exact ⟨w, List.mem_cons_self, own, hw⟩
      · obtain ⟨w', hw', hkind⟩ := ih hplan
        exact ⟨w', List.mem_cons_of_mem _ hw', hkind⟩

/-- The rows after inserting some. -/
theorem after_inserts (rows : List α) :
    after own (rows.map (Write.insert : α → Write α κ)) = own ++ rows := by
  induction rows generalizing own with
  | nil => simp
  | cons row rows ih =>
      rw [List.map_cons, after_cons, ih]
      simp [Write.after]

/-- Rows can be inserted one after the other if their keys are distinct and in use by none. -/
theorem fits_inserts_iff (rows : List α) :
    Fits key foreign own (rows.map Write.insert) ↔
      (rows.map key).Nodup ∧ ∀ row ∈ rows, ¬foreign (key row) ∧ key row ∉ own.map key := by
  induction rows generalizing own with
  | nil => simp
  | cons row rows ih =>
      rw [List.map_cons, fits_cons, ih, List.map_cons, List.nodup_cons, List.forall_mem_cons]
      simp only [Write.after, Write.Fits, List.map_append, List.map_cons, List.map_nil,
        List.mem_append, List.mem_singleton, not_or]
      constructor
      · rintro ⟨hrow, hnodup, hrows⟩
        refine ⟨⟨?_, hnodup⟩, hrow, fun r hr => ⟨(hrows r hr).1, (hrows r hr).2.1⟩⟩
        intro hmem
        obtain ⟨r, hr, heq⟩ := List.mem_map.mp hmem
        exact (hrows r hr).2.2 heq
      · rintro ⟨⟨hnotMem, hnodup⟩, hrow, hrows⟩
        refine ⟨hrow, hnodup, fun r hr => ⟨(hrows r hr).1, (hrows r hr).2, ?_⟩⟩
        intro heq
        exact hnotMem (List.mem_map.mpr ⟨r, hr, heq⟩)

end UniqueWrites
