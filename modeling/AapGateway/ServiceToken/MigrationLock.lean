import AapGateway.Foundations.TimedCache

/-!
# The lock on service authentication

Services cannot authenticate before `migrate_service_data` has completed. The command sets a flag in
the one row of `MigrateServiceDataHasRan`. Every authentication asks `has_migration_completed`,
which each worker process answers for five seconds from attributes of the function object, `_ts`
and `_val`. Saving the row deletes `_val` in the process that saves, and in no other.

The server of the authorization service runs the calls in a pool of threads, which share the
attributes of their process. Any thread may move between the clock reading, the condition, the query
and the assignments of a call. The condition is evaluated at once, and a query or a save is one
statement of the database. The monotonic clocks of the processes are taken as one clock, since only
differences of its readings are used.

## Main definitions

* `LockState` and `LockState.step`: the row, the processes and their threads, and what happens next;
* `LockState.view`: the row as a register with caches that expire.

## Main results

* `view_step`: the threads do what those of such caches do;
* `hasMigrationCompleted_recent`: an answer has been in the row, and less than five seconds before
  the call began or later if the calls of a process never overlap.
-/

namespace AapGateway.ServiceToken

/-- The attributes of `has_migration_completed` in a process. -/
structure FunctionAttributes where
  /-- `_ts`. -/
  ts : Option ℚ := none
  /-- `_val`. -/
  val : Option Bool := none
  deriving DecidableEq, Repr

/-- Where a call is. -/
inductive LockCall where
  /-- `has_migration_completed` has read the clock. -/
  | timed (now : ℚ)
  /-- Its condition holds. -/
  | young (now : ℚ)
  /-- Its condition does not hold. -/
  | stale (now : ℚ)
  /-- `get_instance` has created the row, and `save` has yet to clear the cache. -/
  | created (now : ℚ)
  | got (now : ℚ) (hasRan : Bool)
  /-- `_ts` is set. -/
  | stamped (now : ℚ) (hasRan : Bool)
  /-- A method that marks has been called. -/
  | marking (completed : Bool)
  /-- Its `get_instance` has created the row, and `save` has yet to clear the cache. -/
  | markingCreated (completed : Bool)
  | markingGot (completed : Bool)
  /-- The row is saved, and `save` has yet to clear the cache. -/
  | saved
  deriving DecidableEq, Repr

/-- The database row, the worker processes `ι` and their threads `θ`. -/
structure LockState (ι θ : Type) where
  /-- `time.monotonic()`. -/
  clock : ℚ
  /-- `has_ran` of the row, if there is a row. -/
  row : Option Bool
  attributes : ι → FunctionAttributes
  calls : θ → Option LockCall

/-- What happens next. -/
inductive LockEvent (θ : Type) where
  /-- Time passes. -/
  | pass (d : ℚ)
  /-- A thread calls `has_migration_completed`. -/
  | check (t : θ)
  /-- A thread calls `mark_migration_completed` or `mark_migration_not_completed`. -/
  | mark (t : θ) (completed : Bool)
  /-- The call of a thread goes on. -/
  | advance (t : θ)

namespace LockState

variable {ι θ : Type}

/-- `get_instance().has_ran`: a row that is created has the default. -/
def hasRan (s : LockState ι θ) : Bool :=
  s.row.getD false

/-- The condition under which `has_migration_completed` answers from its attributes. -/
def isYoung (now : ℚ) (f : FunctionAttributes) : Bool :=
  f.ts.any (fun ts => now - ts < 5) && f.val.isSome

section Step

variable [DecidableEq ι] [DecidableEq θ]

/-- The call of a thread is somewhere else. -/
def put (s : LockState ι θ) (t : θ) (call : Option LockCall) : LockState ι θ :=
  { s with calls := Function.update s.calls t call }

/-- The attributes of a process are changed. -/
def setAttributes (s : LockState ι θ) (i : ι) (f : FunctionAttributes) : LockState ι θ :=
  { s with attributes := Function.update s.attributes i f }

/-- `del f._val`, if there is a value. -/
def clear (s : LockState ι θ) (i : ι) : LockState ι θ :=
  s.setAttributes i { s.attributes i with val := none }

/-- The call of a thread of a process goes on. It may answer, with the time that it has read. -/
def advance (s : LockState ι θ) (i : ι) (t : θ) :
    LockCall → LockState ι θ × Option (ℚ × Bool)
  | .timed now =>
    if isYoung now (s.attributes i) then (s.put t (some (.young now)), none)
    else (s.put t (some (.stale now)), none)
  -- Without the value this is an `AttributeError`.
  | .young now => (s.put t none, (s.attributes i).val.map fun val => (now, val))
  | .stale now =>
    match s.row with
    | some hasRan => (s.put t (some (.got now hasRan)), none)
    | none => ({ s with row := some false }.put t (some (.created now)), none)
  | .created now => ((s.clear i).put t (some (.got now false)), none)
  | .got now hasRan =>
    ((s.setAttributes i { s.attributes i with ts := some now }).put t
      (some (.stamped now hasRan)), none)
  | .stamped now hasRan =>
    ((s.setAttributes i { s.attributes i with val := some hasRan }).put t none,
      some (now, hasRan))
  | .marking completed =>
    match s.row with
    | some _ => (s.put t (some (.markingGot completed)), none)
    | none => ({ s with row := some false }.put t (some (.markingCreated completed)), none)
  | .markingCreated completed => ((s.clear i).put t (some (.markingGot completed)), none)
  | .markingGot completed => ({ s with row := some completed }.put t (some .saved), none)
  | .saved => ((s.clear i).put t none, none)

/-- One step, with the answer of a call that returns one. -/
def step (owner : θ → ι) (s : LockState ι θ) :
    LockEvent θ → Option (LockState ι θ × Option (ℚ × Bool))
  | .pass d => if 0 ≤ d then some ({ s with clock := s.clock + d }, none) else none
  | .check t =>
    match s.calls t with
    | none => some (s.put t (some (.timed s.clock)), none)
    | some _ => none
  | .mark t completed =>
    match s.calls t with
    | none => some (s.put t (some (.marking completed)), none)
    | some _ => none
  | .advance t => (s.calls t).map (s.advance (owner t) t)

/-- The states that lead from `init` to a state, the last one first. -/
inductive Run (owner : θ → ι) (init : LockState ι θ) :
    List (LockState ι θ) → LockState ι θ → Prop
  | start : Run owner init [init] init
  | step {past : List (LockState ι θ)} {s s' : LockState ι θ} {e : LockEvent θ}
      {answer : Option (ℚ × Bool)} (h : Run owner init past s)
      (hstep : s.step owner e = some (s', answer)) : Run owner init (s' :: past) s'

end Step

/-- Processes that have just started: no attribute is set, and no call is in progress. -/
structure Fresh (s : LockState ι θ) : Prop where
  attributes : ∀ i, s.attributes i = {}
  calls : ∀ t, s.calls t = none

/-- A call of `has_migration_completed`, as a check of the cache. -/
def checkOf : LockCall → Option (TimedCache.Check ℚ Bool)
  | .timed now => some (.begun now)
  | .young now => some (.hit now)
  | .stale now => some (.missed now)
  | .created now => some (.read now false)
  | .got now hasRan => some (.read now hasRan)
  | .stamped now hasRan => some (.stamped now hasRan)
  | _ => none

/-- The row as a register, with the attributes as cells. -/
def view (s : LockState ι θ) : TimedCache.World ι θ ℚ Bool where
  now := s.clock
  value := s.hasRan
  time i := (s.attributes i).ts
  cell i := (s.attributes i).val
  checks t := (s.calls t).bind checkOf

/-- No two calls of `has_migration_completed` in a process are in progress. -/
def Serial (owner : θ → ι) (s : LockState ι θ) : Prop :=
  s.view.Exclusive owner

variable [DecidableEq ι] [DecidableEq θ] {s s' init : LockState ι θ} {owner : θ → ι} {t : θ}

omit [DecidableEq ι] in
/-- The check of a thread is that of its call. -/
@[simp]
theorem view_put (s : LockState ι θ) (t : θ) (call : Option LockCall) :
    (s.put t call).view = s.view.put t (call.bind checkOf) := by
  ext
  · rfl
  · rfl
  · rfl
  · rfl
  · rename_i t' c
    rw [view, put, TimedCache.World.put]
    by_cases ht : t' = t
    · subst ht
      simp
    · simp [Function.update_of_ne ht, view]

omit [DecidableEq θ] in
/-- The cells are the attributes. -/
@[simp]
theorem view_setAttributes (s : LockState ι θ) (i : ι) (f : FunctionAttributes) :
    (s.setAttributes i f).view = { s.view with
      time := Function.update s.view.time i f.ts
      cell := Function.update s.view.cell i f.val } := by
  ext
  · rfl
  · rfl
  · rename_i j ts
    by_cases hj : j = i
    · subst hj
      simp [view, setAttributes]
    · simp [view, setAttributes, Function.update_of_ne hj]
  · rename_i j val
    by_cases hj : j = i
    · subst hj
      simp [view, setAttributes]
    · simp [view, setAttributes, Function.update_of_ne hj]
  · rfl

omit [DecidableEq θ] in
/-- Clearing the cache empties the value cell. -/
@[simp]
theorem view_clear (s : LockState ι θ) (i : ι) :
    (s.clear i).view = { s.view with cell := Function.update s.view.cell i none } := by
  have htime : Function.update s.view.time i (s.attributes i).ts = s.view.time :=
    Function.update_eq_self i s.view.time
  rw [clear, view_setAttributes, htime]

omit [DecidableEq ι] [DecidableEq θ] in
/-- The check of a thread whose call is known. -/
theorem view_checks {call : LockCall} (h : s.calls t = some call) :
    s.view.checks t = checkOf call := by
  have hbind : (s.calls t).bind checkOf = checkOf call := by rw [h, Option.bind_some]
  exact hbind

omit [DecidableEq ι] [DecidableEq θ] in
/-- The flag is the row's. -/
theorem view_value {hasRan : Bool} (h : s.row = some hasRan) : s.view.value = hasRan := by
  have hflag : s.hasRan = hasRan := by rw [LockState.hasRan, h, Option.getD_some]
  exact hflag

omit [DecidableEq ι] [DecidableEq θ] in
/-- Saving the row writes the register. -/
theorem view_row (s : LockState ι θ) (completed : Bool) :
    view { s with row := some completed } = { s.view with value := completed } :=
  rfl

omit [DecidableEq ι] [DecidableEq θ] in
/-- Creating the row does not. -/
theorem view_create (h : s.row = none) : view { s with row := some false } = s.view := by
  have hflag : s.view.value = false := by
    have hrow : s.hasRan = false := by rw [LockState.hasRan, h, Option.getD_none]
    exact hrow
  rw [view_row, ← hflag]

omit [DecidableEq ι] [DecidableEq θ] in
/-- The condition of `has_migration_completed` is that the cells are young. -/
theorem isYoung_iff {i : ι} {now : ℚ} :
    isYoung now (s.attributes i) = true ↔ s.view.Young 5 i now := by
  rw [isYoung, Bool.and_eq_true, Option.any_eq_true]
  simp only [decide_eq_true_eq]
  rfl

omit [DecidableEq ι] in
/-- A thread whose check does not change. -/
theorem put_eq_self {w : TimedCache.World ι θ ℚ Bool} {check : Option (TimedCache.Check ℚ Bool)}
    (h : w.checks t = check) : w.put t check = w := by
  rw [TimedCache.World.put, ← h, Function.update_eq_self]

/-- A step of the caches, or none at all. -/
def Simulates (owner : θ → ι) (s s' : LockState ι θ) (answer : Option (ℚ × Bool)) : Prop :=
  TimedCache.Step 5 owner s.view s'.view answer ∨ (s'.view = s.view ∧ answer = none)

/-- A call of a thread does what a check does. -/
theorem simulates_advance {call : LockCall} (h : s.calls t = some call) :
    Simulates owner s (s.advance (owner t) t call).1 (s.advance (owner t) t call).2 := by
  have hcheck := view_checks h
  cases call with
  | timed now =>
      left
      rw [advance]
      -- A value below five seconds of age is answered without the database.
      split_ifs with hyoung
      · rw [view_put]
        exact .hit _ t now hcheck (isYoung_iff.mp hyoung)
      · rw [view_put]
        exact .miss _ t now hcheck (mt isYoung_iff.mpr hyoung)
  | young now =>
      left
      rw [advance, view_put]
      exact .load _ t now hcheck
  | stale now =>
      left
      rw [advance]
      split
      · rename_i hasRan hrow
        rw [view_put, ← view_value hrow]
        exact .read _ t now hcheck
      -- `get_or_create` finds no row: the one that it creates has the default.
      · rename_i hrow
        have hfalse : s.view.value = false := by
          rw [← view_create hrow]
          rfl
        rw [view_put, view_create hrow]
        have hread : TimedCache.Step 5 owner s.view _ none := .read s.view t now hcheck
        rw [hfalse] at hread
        exact hread
  -- The save of the created row clears the cache of its own process only.
  | created now =>
      left
      rw [advance, view_put, put_eq_self, view_clear]
      · exact .drop _ (owner t)
      · rw [view_clear]
        exact hcheck
  -- The two attributes are set one after the other: here the time, in the next step the value.
  | got now hasRan =>
      left
      have hcell : Function.update s.view.cell (owner t) (s.attributes (owner t)).val =
          s.view.cell := Function.update_eq_self (owner t) s.view.cell
      rw [advance, view_put, view_setAttributes, hcell]
      exact .stamp _ t now hasRan hcheck
  | stamped now hasRan =>
      left
      have htime : Function.update s.view.time (owner t) (s.attributes (owner t)).ts =
          s.view.time := Function.update_eq_self (owner t) s.view.time
      rw [advance, view_put, view_setAttributes, htime]
      exact .store _ t now hasRan hcheck
  -- Marking is no check: nothing that the cache sees is changed by its first step.
  | marking completed =>
      right
      rw [advance]
      split
      · rw [view_put]
        exact ⟨put_eq_self hcheck, rfl⟩
      · rename_i hrow
        rw [view_put, view_create hrow]
        exact ⟨put_eq_self hcheck, rfl⟩
  -- As for the row that a check creates.
  | markingCreated completed =>
      left
      rw [advance, view_put, put_eq_self, view_clear]
      · exact .drop _ (owner t)
      · rw [view_clear]
        exact hcheck
  -- This is the only step that writes the register.
  | markingGot completed =>
      left
      rw [advance, view_put, put_eq_self, view_row]
      · exact .write _ completed
      · rw [view_row]
        exact hcheck
  | saved =>
      left
      rw [advance, view_put, put_eq_self, view_clear]
      · exact .drop _ (owner t)
      · rw [view_clear]
        exact hcheck

/-- Every step is one of the register and its caches, or none of them. -/
theorem simulates_step {e : LockEvent θ} {answer : Option (ℚ × Bool)}
    (h : s.step owner e = some (s', answer)) : Simulates owner s s' answer := by
  cases e with
  | pass d =>
      rw [step] at h
      split_ifs at h with hd
      cases h
      exact .inl (.wait _ _ (le_add_of_nonneg_right hd))
  | check t =>
      rw [step] at h
      split at h
      · rename_i hidle
        cases h
        left
        rw [view_put]
        have hnone : s.view.checks t = none := by
          have hbind : (s.calls t).bind checkOf = none := by rw [hidle, Option.bind_none]
          exact hbind
        exact .begin _ t hnone
      · cases h
  | mark t completed =>
      rw [step] at h
      split at h
      · rename_i hidle
        cases h
        right
        have hnone : s.view.checks t = none := by
          have hbind : (s.calls t).bind checkOf = none := by rw [hidle, Option.bind_none]
          exact hbind
        rw [view_put]
        exact ⟨put_eq_self hnone, rfl⟩
      · cases h
  | advance t =>
      rw [step] at h
      obtain ⟨call, hcall, hadvance⟩ := Option.map_eq_some_iff.mp h
      have hsimulates : Simulates owner s _ _ := simulates_advance hcall
      rwa [hadvance] at hsimulates

omit [DecidableEq ι] [DecidableEq θ] in
/-- Fresh processes have empty cells and no checks. -/
theorem view_fresh (h : init.Fresh) : init.view.Fresh := by
  constructor
  · intro i
    have hval : (init.attributes i).val = none := by rw [h.attributes i]
    exact hval
  · intro t
    have hbind : (init.calls t).bind checkOf = none := by rw [h.calls t, Option.bind_none]
    exact hbind

/-- A run of the threads is a run of the caches through what is seen of the states. -/
theorem view_run {past : List (LockState ι θ)} (h : Run owner init past s) :
    ∃ worlds, TimedCache.Run 5 owner init.view worlds s.view ∧
      ∀ w ∈ worlds, ∃ before ∈ past, before.view = w := by
  induction h with
  | start =>
      refine ⟨[init.view], .start, ?_⟩
      intro w hw
      exact ⟨init, List.mem_singleton_self init, (List.mem_singleton.mp hw).symm⟩
  | @step past s s' e answer hrun hstep ih =>
      obtain ⟨worlds, hworlds, hpast⟩ := ih
      rcases simulates_step hstep with hsim | ⟨hsame, -⟩
      · refine ⟨s'.view :: worlds, .step hworlds hsim, ?_⟩
        intro w hw
        rcases List.mem_cons.mp hw with rfl | hw
        · exact ⟨s', List.mem_cons_self, rfl⟩
        · obtain ⟨before, hbefore, hview⟩ := hpast w hw
          exact ⟨before, List.mem_cons_of_mem _ hbefore, hview⟩
      · rw [hsame]
        refine ⟨worlds, hworlds, ?_⟩
        intro w hw
        obtain ⟨before, hbefore, hview⟩ := hpast w hw
        exact ⟨before, List.mem_cons_of_mem _ hbefore, hview⟩

/-- In every interleaving, the answer of `has_migration_completed` has been in the row. If the calls
of a process never overlap, it has been there less than five seconds before the call, or later. -/
theorem hasMigrationCompleted_recent {past : List (LockState ι θ)} {e : LockEvent θ} {now : ℚ}
    {completed : Bool} (hfresh : init.Fresh) (h : Run owner init past s)
    (hstep : s.step owner e = some (s', some (now, completed))) :
    (∃ before ∈ past, before.hasRan = completed) ∧
      ((∀ before ∈ past, before.Serial owner) →
        ∃ before ∈ past, now - 5 < before.clock ∧ before.hasRan = completed) := by
  obtain ⟨worlds, hworlds, hpast⟩ := view_run h
  have hanswer : TimedCache.Step 5 owner s.view s'.view (some (now, completed)) := by
    rcases simulates_step hstep with hsim | ⟨-, hnone⟩
    · exact hsim
    · cases hnone
  constructor
  · obtain ⟨w, hw, hvalue⟩ := TimedCache.answer_past (view_fresh hfresh) hworlds hanswer
    obtain ⟨before, hbefore, rfl⟩ := hpast w hw
    exact ⟨before, hbefore, hvalue⟩
  · intro hserial
    have hexclusive : ∀ w ∈ worlds, w.Exclusive owner := by
      intro w hw
      obtain ⟨before, hbefore, rfl⟩ := hpast w hw
      exact hserial before hbefore
    obtain ⟨w, hw, hrecent, hvalue⟩ := TimedCache.answer_recent (by norm_num : (0 : ℚ) < 5)
      (view_fresh hfresh) hworlds hexclusive hanswer
    obtain ⟨before, hbefore, rfl⟩ := hpast w hw
    exact ⟨before, hbefore, hrecent, hvalue⟩

/-- Two processes with a thread each, before there is a row. -/
def idle : LockState Bool Bool where
  clock := 0
  row := none
  attributes _ := {}
  calls _ := none

/-- The second process marks the migration as completed, and the first one asks before the second
has cleared its cache. -/
theorem hasMigrationCompleted_recent_marked :
    ∃ past s s', Run id idle past s ∧ s.step id (.advance false) = some (s', some (0, true)) ∧
      (∃ before ∈ past, before.hasRan = true) ∧
        ((∀ before ∈ past, before.Serial id) →
          ∃ before ∈ past, (0 : ℚ) - 5 < before.clock ∧ before.hasRan = true) := by
  have hcalled : Run id idle _ _ := .step (e := .mark true true) .start rfl
  have hcreated := Run.step (e := .advance true) hcalled rfl
  have hgot := Run.step (e := .advance true) hcreated rfl
  have hsaved := Run.step (e := .advance true) hgot rfl
  have htimed := Run.step (e := .check false) hsaved rfl
  have hstale := Run.step (e := .advance false) htimed rfl
  have hread := Run.step (e := .advance false) hstale rfl
  have hstamped := Run.step (e := .advance false) hread rfl
  exact ⟨_, _, (LockState.advance _ false false (.stamped 0 true)).1, hstamped, rfl,
    hasMigrationCompleted_recent ⟨fun _ => rfl, fun _ => rfl⟩ (e := .advance false) hstamped rfl⟩

end LockState

end AapGateway.ServiceToken
