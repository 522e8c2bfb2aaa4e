import Mathlib

/-!
# Caches that expire

A register that any number of parties write, and a cache of it at each party that answers for a
limited time. The cache consists of two cells, the time of a check and the value that the check
read. The threads of a party share them without a lock: a check looks whether the cells are young
and then loads the value, or else it reads the register and sets the two cells one after the other.
Other threads may move between any two of these steps, and any of them may empty the value cell.

## Main definitions

* `World` and `Step`: the register, the cells and the checks in progress;
* `Run`: the worlds that have been passed and the one that is reached;
* `World.Exclusive`: no two checks of a party are in progress.

## Main results

* `answer_past`: in every run, an answer has been in the register;
* `answer_recent`: in a run through exclusive worlds, it was there at a moment less than the
  lifetime before the check began, or later.
-/

namespace TimedCache

variable {ι θ τ α : Type}

/-- A check in progress, with the time at which it began. -/
inductive Check (τ α : Type) where
  | begun (t₀ : τ)
  /-- The cells were young. -/
  | hit (t₀ : τ)
  | missed (t₀ : τ)
  | read (t₀ : τ) (v : α)
  /-- The time cell is set. -/
  | stamped (t₀ : τ) (v : α)

/-- The register, the cells of the parties and the checks of the threads. -/
@[ext]
structure World (ι θ τ α : Type) where
  now : τ
  value : α
  time : ι → Option τ
  cell : ι → Option α
  checks : θ → Option (Check τ α)

/-- No two checks of a party are in progress. -/
def World.Exclusive (owner : θ → ι) (w : World ι θ τ α) : Prop :=
  ∀ t t', owner t = owner t' → w.checks t ≠ none → w.checks t' ≠ none → t = t'

/-- The value cells are empty, and nothing is in progress. -/
structure World.Fresh (w : World ι θ τ α) : Prop where
  cell : ∀ i, w.cell i = none
  checks : ∀ t, w.checks t = none

section Step

variable [DecidableEq ι] [DecidableEq θ] [AddCommGroup τ] [LinearOrder τ]

/-- The check of a thread goes on. -/
def World.put (w : World ι θ τ α) (t : θ) (check : Option (Check τ α)) : World ι θ τ α :=
  { w with checks := Function.update w.checks t check }

/-- The cells of a party hold a value and a time that is young for a check. -/
def World.Young (lifetime : τ) (w : World ι θ τ α) (i : ι) (t₀ : τ) : Prop :=
  (∃ ts, w.time i = some ts ∧ t₀ - ts < lifetime) ∧ (w.cell i).isSome

/-- One step, and the answer of a check that ends with one: the time at which it began, and the
value. -/
inductive Step (lifetime : τ) (owner : θ → ι) :
    World ι θ τ α → World ι θ τ α → Option (τ × α) → Prop
  /-- Time passes. -/
  | wait (w : World ι θ τ α) (now : τ) (hnow : w.now ≤ now) :
      Step lifetime owner w { w with now := now } none
  /-- The register is written. -/
  | write (w : World ι θ τ α) (v : α) : Step lifetime owner w { w with value := v } none
  /-- A value cell is emptied. -/
  | drop (w : World ι θ τ α) (i : ι) :
      Step lifetime owner w { w with cell := Function.update w.cell i none } none
  /-- A thread begins a check. -/
  | begin (w : World ι θ τ α) (t : θ) (h : w.checks t = none) :
      Step lifetime owner w (w.put t (some (.begun w.now))) none
  /-- It finds the cells young. -/
  | hit (w : World ι θ τ α) (t : θ) (t₀ : τ) (h : w.checks t = some (.begun t₀))
      (hyoung : w.Young lifetime (owner t) t₀) :
      Step lifetime owner w (w.put t (some (.hit t₀))) none
  /-- It does not. -/
  | miss (w : World ι θ τ α) (t : θ) (t₀ : τ) (h : w.checks t = some (.begun t₀))
      (hyoung : ¬w.Young lifetime (owner t) t₀) :
      Step lifetime owner w (w.put t (some (.missed t₀))) none
  /-- It loads the value, if that is still there, and answers. -/
  | load (w : World ι θ τ α) (t : θ) (t₀ : τ) (h : w.checks t = some (.hit t₀)) :
      Step lifetime owner w (w.put t none) ((w.cell (owner t)).map fun v => (t₀, v))
  /-- It reads the register. -/
  | read (w : World ι θ τ α) (t : θ) (t₀ : τ) (h : w.checks t = some (.missed t₀)) :
      Step lifetime owner w (w.put t (some (.read t₀ w.value))) none
  /-- It sets the time. -/
  | stamp (w : World ι θ τ α) (t : θ) (t₀ : τ) (v : α) (h : w.checks t = some (.read t₀ v)) :
      Step lifetime owner w { w.put t (some (.stamped t₀ v)) with
        time := Function.update w.time (owner t) (some t₀) } none
  /-- It sets the value and answers. -/
  | store (w : World ι θ τ α) (t : θ) (t₀ : τ) (v : α) (h : w.checks t = some (.stamped t₀ v)) :
      Step lifetime owner w { w.put t none with
        cell := Function.update w.cell (owner t) (some v) } (some (t₀, v))

/-- The worlds that lead from `init` to a world, the last one first. -/
inductive Run (lifetime : τ) (owner : θ → ι) (init : World ι θ τ α) :
    List (World ι θ τ α) → World ι θ τ α → Prop
  | start : Run lifetime owner init [init] init
  | step {past : List (World ι θ τ α)} {w w' : World ι θ τ α} {answer : Option (τ × α)}
      (h : Run lifetime owner init past w) (hstep : Step lifetime owner w w' answer) :
      Run lifetime owner init (w' :: past) w'

end Step

section Runs

variable [DecidableEq ι] [DecidableEq θ] [AddCommGroup τ] [LinearOrder τ] {lifetime : τ}
  {owner : θ → ι} {init w w' : World ι θ τ α} {past : List (World ι θ τ α)}
  {answer : Option (τ × α)}

omit [DecidableEq ι] [AddCommGroup τ] [LinearOrder τ] in
/-- Only the thread that goes on has another check than before. -/
theorem World.checks_put {t t' : θ} {check : Option (Check τ α)} {c : Check τ α}
    (h : (w.put t check).checks t' = some c) :
    (t' = t ∧ check = some c) ∨ (t' ≠ t ∧ w.checks t' = some c) := by
  have hupdate : Function.update w.checks t check t' = some c := h
  rw [Function.update_apply] at hupdate
  split_ifs at hupdate with ht
  · exact .inl ⟨ht, hupdate⟩
  · exact .inr ⟨ht, hupdate⟩

omit [DecidableEq ι] [AddCommGroup τ] [LinearOrder τ] in
/-- The other threads have the checks they had. -/
theorem World.checks_put_of_ne {t t' : θ} {check : Option (Check τ α)} (ht : t' ≠ t) :
    (w.put t check).checks t' = w.checks t' := by
  simp [World.put, Function.update_of_ne ht]

/-- The world that a run has reached is the last one it has passed. -/
theorem Run.mem (h : Run lifetime owner init past w) : w ∈ past := by
  cases h with
  | start => exact List.mem_singleton_self _
  | step _ _ => exact List.mem_cons_self

/-! ### The values that are around -/

/-- The value that a check carries. -/
def Check.value : Check τ α → Option α
  | .read _ v => some v
  | .stamped _ v => some v
  | _ => none

/-- The register has had a value. -/
def Held (past : List (World ι θ τ α)) (v : α) : Prop :=
  ∃ p ∈ past, p.value = v

/-- The values in cells and checks have been in the register. -/
structure World.Known (past : List (World ι θ τ α)) (w : World ι θ τ α) : Prop where
  cell : ∀ i v, w.cell i = some v → Held past v
  check : ∀ t c v, w.checks t = some c → c.value = some v → Held past v

omit [DecidableEq ι] [DecidableEq θ] [AddCommGroup τ] [LinearOrder τ] in
/-- A longer past knows more. -/
theorem Held.cons {v : α} (h : Held past v) (p : World ι θ τ α) : Held (p :: past) v := by
  obtain ⟨q, hq, hvalue⟩ := h
  exact ⟨q, List.mem_cons_of_mem _ hq, hvalue⟩

omit [DecidableEq ι] [AddCommGroup τ] [LinearOrder τ] in
/-- A thread goes on with what is known. -/
theorem World.Known.put (h : w.Known past) (t : θ) (check : Option (Check τ α))
    (hcheck : ∀ c v, check = some c → c.value = some v → Held past v) :
    (w.put t check).Known past := by
  refine ⟨h.cell, fun t' c v hc hv => ?_⟩
  rcases World.checks_put hc with ⟨-, hnew⟩ | ⟨-, hold⟩
  · exact hcheck c v hnew hv
  · exact h.check t' c v hold hv

omit [DecidableEq θ] [AddCommGroup τ] [LinearOrder τ] in
/-- A cell is set to what is known, or emptied. -/
theorem World.Known.setCell (h : w.Known past) (i : ι) (value : Option α)
    (hvalue : ∀ v, value = some v → Held past v) :
    World.Known past { w with cell := Function.update w.cell i value } := by
  refine ⟨fun j v hv => ?_, h.check⟩
  have hupdate : Function.update w.cell i value j = some v := hv
  rw [Function.update_apply] at hupdate
  split_ifs at hupdate with hji
  · exact hvalue v hupdate
  · exact h.cell j v hupdate

/-- No step brings a value that has not been in the register. -/
theorem World.Known.step (h : w.Known past) (hmem : w ∈ past)
    (hstep : Step lifetime owner w w' answer) : w'.Known past := by
  cases hstep with
  | wait now hnow => exact ⟨h.cell, h.check⟩
  | write v => exact ⟨h.cell, h.check⟩
  | drop i => exact h.setCell i none (by simp)
  | begin t hcheck => exact h.put t _ (by rintro c v ⟨⟩ ⟨⟩)
  | hit t t₀ hcheck hyoung => exact h.put t _ (by rintro c v ⟨⟩ ⟨⟩)
  | miss t t₀ hcheck hyoung => exact h.put t _ (by rintro c v ⟨⟩ ⟨⟩)
  | load t t₀ hcheck => exact h.put t _ (by simp)
  | read t t₀ hcheck =>
      apply h.put
      intro c v hc hv
      cases hc
      exact ⟨w, hmem, Option.some.inj hv⟩
  | stamp t t₀ v hcheck =>
      have hput : (w.put t (some (.stamped t₀ v))).Known past := by
        apply h.put
        intro c v' hc hv
        cases hc
        exact h.check t _ v' hcheck hv
      exact ⟨hput.cell, hput.check⟩
  | store t t₀ v hcheck =>
      have hput : (w.put t none).Known past := h.put t _ (by simp)
      apply hput.setCell
      intro v' hv
      exact h.check t _ v' hcheck hv

/-- So it is after every run. -/
theorem known_run (hfresh : init.Fresh) (h : Run lifetime owner init past w) : w.Known past := by
  induction h with
  | start =>
      constructor
      · intro i v hv
        rw [hfresh.cell i] at hv
        cases hv
      · intro t c v hc
        rw [hfresh.checks t] at hc
        cases hc
  | step hrun hstep ih =>
      have hknown := ih.step hrun.mem hstep
      exact ⟨fun i v hv => (hknown.cell i v hv).cons _,
        fun t c v hc hv => (hknown.check t c v hc hv).cons _⟩

/-- An answer has been in the register. -/
theorem answer_past {t₀ : τ} {v : α} (hfresh : init.Fresh) (h : Run lifetime owner init past w)
    (hstep : Step lifetime owner w w' (some (t₀, v))) : Held past v := by
  generalize hanswer : some (t₀, v) = answer at hstep
  cases hstep with
  | load t t₁ hcheck =>
      obtain ⟨v', hv', heq⟩ := Option.map_eq_some_iff.mp hanswer.symm
      cases heq
      exact (known_run hfresh h).cell (owner t) v hv'
  | store t t₁ v' hcheck =>
      cases hanswer
      exact (known_run hfresh h).check t _ v hcheck rfl
  | _ => cases hanswer

/-! ### Their age -/

/-- The register has had a value at a time or later. -/
def HeldSince (past : List (World ι θ τ α)) (t : τ) (v : α) : Prop :=
  ∃ p ∈ past, t ≤ p.now ∧ p.value = v

/-- What holds of a check in progress, with the time cell of its party. -/
def Check.Sound (lifetime : τ) (past : List (World ι θ τ α)) (now : τ) (time : Option τ) :
    Check τ α → Prop
  | .begun t₀ => t₀ ≤ now
  | .hit t₀ => ∃ ts, time = some ts ∧ t₀ - ts < lifetime
  | .missed t₀ => t₀ ≤ now
  | .read t₀ v => HeldSince past t₀ v
  | .stamped t₀ v => HeldSince past t₀ v ∧ time = some t₀

/-- A check that has set the time cell and not yet the value cell. -/
def Check.IsStamped : Check τ α → Prop
  | .stamped _ _ => True
  | _ => False

/-- The cells of a party belong together, except while a check of the party sets them. -/
structure World.Coherent (lifetime : τ) (owner : θ → ι) (past : List (World ι θ τ α))
    (w : World ι θ τ α) : Prop where
  cells : ∀ i ts v, w.time i = some ts → w.cell i = some v →
    (∀ t c, owner t = i → w.checks t = some c → ¬c.IsStamped) → HeldSince past ts v
  check : ∀ t c, w.checks t = some c → c.Sound lifetime past w.now (w.time (owner t))

omit [DecidableEq ι] [DecidableEq θ] [AddCommGroup τ] in
/-- A longer past knows more. -/
theorem HeldSince.cons {t : τ} {v : α} (h : HeldSince past t v) (p : World ι θ τ α) :
    HeldSince (p :: past) t v := by
  obtain ⟨q, hq, hrest⟩ := h
  exact ⟨q, List.mem_cons_of_mem _ hq, hrest⟩

omit [DecidableEq ι] [DecidableEq θ] in
/-- A check stays sound as time passes. -/
theorem Check.Sound.mono {now now' : τ} {time : Option τ} {c : Check τ α}
    (h : c.Sound lifetime past now time) (hnow : now ≤ now') :
    c.Sound lifetime past now' time := by
  cases c with
  | begun t₀ => exact le_trans h hnow
  | missed t₀ => exact le_trans h hnow
  | hit t₀ => exact h
  | read t₀ v => exact h
  | stamped t₀ v => exact h

omit [DecidableEq ι] [DecidableEq θ] in
/-- It stays so with a longer past. -/
theorem Check.Sound.cons {now : τ} {time : Option τ} {c : Check τ α}
    (h : c.Sound lifetime past now time) (p : World ι θ τ α) :
    c.Sound lifetime (p :: past) now time := by
  cases c with
  | begun t₀ => exact h
  | missed t₀ => exact h
  | hit t₀ => exact h
  | read t₀ v => exact HeldSince.cons h p
  | stamped t₀ v => exact ⟨h.1.cons p, h.2⟩

omit [DecidableEq ι] in
/-- A thread that has not set the time goes on with a sound check. -/
theorem World.Coherent.put (h : w.Coherent lifetime owner past) (t : θ)
    (check : Option (Check τ α)) (hbefore : ∀ c, w.checks t = some c → ¬c.IsStamped)
    (hcheck : ∀ c, check = some c → c.Sound lifetime past w.now (w.time (owner t))) :
    (w.put t check).Coherent lifetime owner past := by
  constructor
  · intro i ts v hts hv hnone
    apply h.cells i ts v hts hv
    intro t' c howner hc
    by_cases ht : t' = t
    · subst ht
      exact hbefore c hc
    · exact hnone t' c howner ((World.checks_put_of_ne ht).trans hc)
  · intro t' c hc
    rcases World.checks_put hc with ⟨rfl, hnew⟩ | ⟨-, hold⟩
    · exact hcheck c hnew
    · exact h.check t' c hold

omit [AddCommGroup τ] [LinearOrder τ] [DecidableEq θ] [DecidableEq ι] in
/-- While a check of a party is in progress, no other one is. -/
theorem World.Exclusive.eq_none (h : w.Exclusive owner) {t t' : θ} {c : Check τ α}
    (hc : w.checks t = some c) (howner : owner t' = owner t) (ht : t' ≠ t) :
    w.checks t' = none := by
  by_contra hsome
  exact ht (h t' t howner hsome (by simp [hc]))

/-- The step that sets the time cell. -/
theorem World.Coherent.stamp (h : w.Coherent lifetime owner past) (hexclusive : w.Exclusive owner)
    {t : θ} {t₀ : τ} {v : α} (hcheck : w.checks t = some (.read t₀ v)) :
    World.Coherent lifetime owner past { w.put t (some (.stamped t₀ v)) with
      time := Function.update w.time (owner t) (some t₀) } := by
  have hheld : HeldSince past t₀ v := h.check t _ hcheck
  constructor
  · intro i ts v' hts hv' hnone
    by_cases hi : i = owner t
    · -- The party of the thread has a check that sets the cells.
      exact absurd trivial (hnone t (.stamped t₀ v) hi.symm (Function.update_self ..))
    · apply h.cells i ts v' ((Function.update_of_ne hi _ w.time).symm.trans hts) hv'
      intro t' c howner hc
      have ht : t' ≠ t := by
        rintro rfl
        exact hi howner.symm
      exact hnone t' c howner ((World.checks_put_of_ne ht).trans hc)
  · intro t' c hc
    rcases World.checks_put hc with ⟨rfl, hnew⟩ | ⟨ht, hold⟩
    · cases hnew
      exact ⟨hheld, Function.update_self ..⟩
    · have howner : owner t' ≠ owner t := by
        intro howner
        rw [hexclusive.eq_none hcheck howner ht] at hold
        cases hold
      have hsound := h.check t' c hold
      rwa [← Function.update_of_ne howner (some t₀) w.time] at hsound

/-- The step that sets the value cell. -/
theorem World.Coherent.store (h : w.Coherent lifetime owner past) {t : θ} {t₀ : τ} {v : α}
    (hcheck : w.checks t = some (.stamped t₀ v)) :
    World.Coherent lifetime owner past { w.put t none with
      cell := Function.update w.cell (owner t) (some v) } := by
  have hsound : HeldSince past t₀ v ∧ w.time (owner t) = some t₀ := h.check t _ hcheck
  constructor
  · intro i ts v' hts hv' hnone
    by_cases hi : i = owner t
    · subst hi
      cases hsound.2.symm.trans hts
      cases (Function.update_self (owner t) (some v) w.cell).symm.trans hv'
      exact hsound.1
    · apply h.cells i ts v' hts ((Function.update_of_ne hi _ w.cell).symm.trans hv')
      intro t' c howner hc
      have ht : t' ≠ t := by
        rintro rfl
        exact hi howner.symm
      exact hnone t' c howner ((World.checks_put_of_ne ht).trans hc)
  · intro t' c hc
    rcases World.checks_put hc with ⟨-, hnew⟩ | ⟨-, hold⟩
    · cases hnew
    · exact h.check t' c hold

/-- Every step from an exclusive world keeps the cells coherent. -/
theorem World.Coherent.step (h : w.Coherent lifetime owner past) (hmem : w ∈ past)
    (hexclusive : w.Exclusive owner) (hstep : Step lifetime owner w w' answer) :
    w'.Coherent lifetime owner past := by
  cases hstep with
  | wait now hnow => exact ⟨h.cells, fun t c hc => (h.check t c hc).mono hnow⟩
  | write v => exact ⟨h.cells, h.check⟩
  | drop i =>
      refine ⟨fun j ts v hts hv hnone => ?_, h.check⟩
      by_cases hji : j = i
      · subst hji
        cases (Function.update_self j none w.cell).symm.trans hv
      · exact h.cells j ts v hts ((Function.update_of_ne hji none w.cell).symm.trans hv) hnone
  | begin t hcheck =>
      apply h.put
      · simp [hcheck]
      · intro c hc
        cases hc
        exact le_refl w.now
  | hit t t₀ hcheck hyoung =>
      apply h.put
      · simp [hcheck, Check.IsStamped]
      · intro c hc
        cases hc
        exact hyoung.1
  | miss t t₀ hcheck hyoung =>
      have hbegun : t₀ ≤ w.now := h.check t _ hcheck
      apply h.put
      · simp [hcheck, Check.IsStamped]
      · intro c hc
        cases hc
        exact hbegun
  | load t t₀ hcheck =>
      apply h.put
      · simp [hcheck, Check.IsStamped]
      · simp
  | read t t₀ hcheck =>
      have hmissed : t₀ ≤ w.now := h.check t _ hcheck
      apply h.put
      · simp [hcheck, Check.IsStamped]
      · intro c hc
        cases hc
        exact ⟨w, hmem, hmissed, rfl⟩
  | stamp t t₀ v hcheck => exact h.stamp hexclusive hcheck
  | store t t₀ v hcheck => exact h.store hcheck

/-- So it is after every run through exclusive worlds. -/
theorem coherent_run (hfresh : init.Fresh) (h : Run lifetime owner init past w)
    (hexclusive : ∀ p ∈ past, p.Exclusive owner) : w.Coherent lifetime owner past := by
  induction h with
  | start =>
      constructor
      · intro i ts v _ hv
        rw [hfresh.cell i] at hv
        cases hv
      · intro t c hc
        rw [hfresh.checks t] at hc
        cases hc
  | step hrun hstep ih =>
      have hpast := fun p hp => hexclusive p (List.mem_cons_of_mem _ hp)
      have hcoherent := (ih hpast).step hrun.mem (hpast _ hrun.mem) hstep
      exact ⟨fun i ts v hts hv hnone => (hcoherent.cells i ts v hts hv hnone).cons _,
        fun t c hc => (hcoherent.check t c hc).cons _⟩

/-- An answer was in the register less than the lifetime before the check began, or later. -/
theorem answer_recent [IsOrderedAddMonoid τ] {t₀ : τ} {v : α} (hlifetime : 0 < lifetime)
    (hfresh : init.Fresh) (h : Run lifetime owner init past w)
    (hexclusive : ∀ p ∈ past, p.Exclusive owner)
    (hstep : Step lifetime owner w w' (some (t₀, v))) :
    ∃ p ∈ past, t₀ - lifetime < p.now ∧ p.value = v := by
  have hcoherent := coherent_run hfresh h hexclusive
  generalize hanswer : some (t₀, v) = answer at hstep
  cases hstep with
  | load t t₁ hcheck =>
      obtain ⟨v', hv', heq⟩ := Option.map_eq_some_iff.mp hanswer.symm
      cases heq
      obtain ⟨ts, hts, hyoung⟩ := hcoherent.check t _ hcheck
      have hheld : HeldSince past ts v := by
        apply hcoherent.cells (owner t) ts v hts hv'
        intro t' c howner hc
        by_cases ht : t' = t
        · subst ht
          cases hcheck.symm.trans hc
          exact not_false
        · rw [(hexclusive w h.mem).eq_none hcheck howner ht] at hc
          cases hc
      obtain ⟨p, hp, hle, hvalue⟩ := hheld
      exact ⟨p, hp, lt_of_lt_of_le (sub_lt_comm.mp hyoung) hle, hvalue⟩
  | store t t₁ v' hcheck =>
      cases hanswer
      obtain ⟨⟨p, hp, hle, hvalue⟩, -⟩ := hcoherent.check t _ hcheck
      exact ⟨p, hp, lt_of_lt_of_le (sub_lt_self t₀ hlifetime) hle, hvalue⟩
  | _ => cases hanswer

end Runs

end TimedCache
