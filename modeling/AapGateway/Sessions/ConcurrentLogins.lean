import AapGateway.Sessions.Tracking

/-!
# The session limit under concurrent logins

Two logins of one user run `track_user_session` in transactions of their own. Each inserts its
membership, reads the user's active memberships with `select_for_update`, deletes those over the
limit and commits. The read takes a snapshot of the committed rows and of the transaction's own
row, then waits until the other transaction holds none of the rows it wants to lock; a row that
was deleted in the meantime drops out of its result, and a row that was inserted in the meantime
does not come in. The rows that `OFFSET` skips are locked like the others.

The lock therefore covers the rows that both logins see, and each login's own row is not one of
them.

The two reads of the clock are one instant here: no session expires between them.

## Main definitions

* `TwoLogins`: the committed rows, the two rows to insert and the limit;
* `TwoLogins.step`: one statement of one of the transactions;
* `TwoLogins.NoMoreThanSerial`: every interleaving leaves at most what the serial orders leave.

## Main results

* `rows_of_done`: every interleaving ends like a serial order or like an overlap;
* `run_serial` and `run_overlap`: both ends are reached.
-/

namespace AapGateway.Sessions

/-- A membership joined with the expiry of its session. -/
structure Row extends UserSessionMembership where
  /-- When the session expires. -/
  expireDate : ℤ
  deriving DecidableEq

/-- The newest row is the first in the order of the read. -/
def Row.age (r : Row) : ℤ ×ₗ ℕ := r.toUserSessionMembership.age

/-- One of the two logins. -/
inductive Login where
  | first
  | second
  deriving DecidableEq

/-- The login it runs against. -/
def Login.other : Login → Login
  | .first => .second
  | .second => .first

/-- The other login is another one. -/
@[simp]
theorem Login.other_ne (i : Login) : i.other ≠ i := by cases i <;> decide

/-- A login is another one than the other. -/
@[simp]
theorem Login.ne_other (i : Login) : i ≠ i.other := by cases i <;> decide

/-- The other of the other is the login. -/
@[simp]
theorem Login.other_other (i : Login) : i.other.other = i := by cases i <;> rfl

/-- There are two logins. -/
theorem Login.eq_or_eq_other (i k : Login) : k = i ∨ k = i.other := by
  cases i <;> cases k <;> decide

/-- Two logins of one user. -/
structure TwoLogins where
  /-- The user who logs in. -/
  user : ℤ
  /-- The instant of the two reads. -/
  now : ℤ
  /-- `MAX_EXTRA_SESSIONS_PER_USER`. -/
  limit : ℕ
  /-- The rows committed before. -/
  existing : List Row
  /-- The row each login inserts. -/
  row : Login → Row
  /-- The logins insert memberships of the user. -/
  row_user : ∀ i, (row i).user = user
  /-- Primary keys are distinct. -/
  pk_nodup : ((existing ++ [row .first, row .second]).map (·.pk)).Nodup

/-- How far a transaction has come. -/
inductive Phase where
  | begun
  | inserted
  /-- The read has its snapshot and waits for the locks. -/
  | scanned (snapshot : List Row)
  /-- The read has returned: the rows it locked. -/
  | locked (rows : List Row)
  /-- The rows over the limit are deleted, not yet visibly to the other. -/
  | deleted (rows gone : List Row)
  | committed
  deriving DecidableEq

/-- The rows a transaction holds locks on. -/
def Phase.held : Phase → List Row
  | .locked rows => rows
  | .deleted rows _ => rows
  | _ => []

/-- The read of a transaction has returned. -/
def Phase.HasRead : Phase → Prop
  | .locked _ => True
  | .deleted _ _ => True
  | _ => False

/-- The committed rows and the two transactions. -/
structure LoginState where
  /-- What a new snapshot sees, its own row apart. -/
  rows : List Row
  /-- The transactions. -/
  phase : Login → Phase

namespace LoginState

/-- One transaction moves on. -/
def advance (s : LoginState) (i : Login) (p : Phase) : LoginState :=
  { s with phase := Function.update s.phase i p }

variable (s : LoginState) {i k : Login} (p : Phase)

/-- The transaction that moves is in its new phase. -/
@[simp]
theorem advance_phase_self : (s.advance i p).phase i = p := Function.update_self ..

/-- The other one stays where it is. -/
theorem advance_phase_of_ne (h : k ≠ i) : (s.advance i p).phase k = s.phase k :=
  Function.update_of_ne h ..

end LoginState

namespace TwoLogins

variable (c : TwoLogins)

/-- The user's rows with an unexpired session. -/
def active (rows : List Row) : List Row :=
  rows.filter fun r => r.user = c.user ∧ c.now < r.expireDate

/-- The rows over the limit, of those a read returns. -/
def overLimit (rows : List Row) : List Row := Retention.overLimit Row.age (c.limit + 1) rows

/-- The state before either login starts. -/
def init : LoginState where
  rows := c.existing
  phase := fun _ => .begun

/-- The next statement of a login, or `none` while it waits for a lock or once it has committed. -/
def step (s : LoginState) (i : Login) : Option LoginState :=
  match s.phase i with
  | .begun => some (s.advance i .inserted)
  | .inserted => some (s.advance i (.scanned (c.active (s.rows ++ [c.row i]))))
  | .scanned snapshot =>
    if snapshot.any fun r => r ∈ (s.phase i.other).held then none
    -- a row deleted since the snapshot is skipped
    else some (s.advance i (.locked (snapshot.filter fun r => r ∈ s.rows ++ [c.row i])))
  | .locked rows => some (s.advance i (.deleted rows (c.overLimit rows)))
  | .deleted _ gone =>
    some { s.advance i .committed with rows := (s.rows ++ [c.row i]).filter fun r => r ∉ gone }
  | .committed => none

/-- The state after the statements of a schedule, if none of them has to wait. -/
def run (s : LoginState) : List Login → Option LoginState
  | [] => some s
  | i :: schedule => (c.step s i).bind fun s => run s schedule

/-- One login after the other. -/
def serial (i : Login) : List Login := [i, i, i, i, i, i.other, i.other, i.other, i.other, i.other]

/-- Both logins have committed. -/
def Done (s : LoginState) : Prop := ∀ i, s.phase i = .committed

/-- The number of active tracked sessions of the user. -/
def count (s : LoginState) : ℕ := (c.active s.rows).length

/-- Whatever the interleaving, the user ends with no more active sessions than either serial order
leaves. -/
def NoMoreThanSerial : Prop :=
  ∀ schedule s, c.run c.init schedule = some s → Done s →
    ∀ i, ∃ t, c.run c.init (serial i) = some t ∧ Done t ∧ c.count s ≤ c.count t

/-- The session of a login has not expired. -/
def Counts (i : Login) : Prop := c.now < (c.row i).expireDate

/-- The active rows that were there before and are newer than a login's. -/
def newer (i : Login) : List Row :=
  (c.active c.existing).filter fun r => (c.row i).age < r.age

/-- There is room for another session beside a login's own, or one of the two new sessions does not
count, or neither login's row is among the newest. -/
def LockSuffices : Prop :=
  (c.active c.existing).length < c.limit ∨ (∃ i, ¬c.Counts i) ∨ ∀ i, c.limit < (c.newer i).length

/-! ## What the reads can return -/

/-- What a login reads when nothing was committed since the beginning. -/
def view (i : Login) : List Row := c.active (c.existing ++ [c.row i])

/-- The rows when a login is the first to commit. -/
def after (i : Login) : List Row :=
  (c.existing ++ [c.row i]).filter fun r => r ∉ c.overLimit (c.view i)

/-- What the other login reads when its snapshot comes after that commit. -/
def serialView (i : Login) : List Row := c.active (c.after i ++ [c.row i.other])

/-- What the other login reads when its snapshot comes before that commit. -/
def overlapView (i : Login) : List Row :=
  (c.view i.other).filter fun r => r ∈ c.after i ++ [c.row i.other]

/-- The rows when the other login commits next, after a read of `rows`. -/
def final (i : Login) (rows : List Row) : List Row :=
  (c.after i ++ [c.row i.other]).filter fun r => r ∉ c.overLimit rows

/-- A read that finds no row deleted returns its snapshot. -/
theorem active_filter_mem (rows : List Row) :
    (c.active rows).filter (fun r => r ∈ rows) = c.active rows := by
  rw [List.filter_eq_self]
  intro r hr
  exact decide_eq_true (List.mem_filter.mp hr).1

/-- The active rows of two tables. -/
theorem active_append (rows rows' : List Row) :
    c.active (rows ++ rows') = c.active rows ++ c.active rows' := List.filter_append ..

/-- Reads that share no row leave no row that both logins could see. -/
theorem active_existing_eq_nil {i j : Login}
    (h : ((c.view i).any fun r => r ∈ c.view j) = false) : c.active c.existing = [] := by
  rw [List.any_eq_false] at h
  refine List.eq_nil_iff_forall_not_mem.mpr fun r hr => h r ?_ (decide_eq_true ?_)
  · rw [view, active_append]
    exact List.mem_append_left _ hr
  · rw [view, active_append]
    exact List.mem_append_left _ hr

/-- With no row that both logins could see, the other login's commit deletes nothing of a read. -/
theorem overlapView_eq_view (i : Login) (h : c.active c.existing = []) :
    c.overlapView i = c.view i.other := by
  rw [overlapView, view, active_append, h, List.nil_append, List.filter_eq_self]
  intro r hr
  exact decide_eq_true (List.mem_append_right _ (List.mem_filter.mp hr).1)

/-! ## Every interleaving -/

/-- The transaction of a login while the other has not committed. -/
inductive Early (i : Login) : Phase → Prop where
  | begun : Early i .begun
  | inserted : Early i .inserted
  | scanned : Early i (.scanned (c.view i))
  | locked : Early i (.locked (c.view i))
  | deleted : Early i (.deleted (c.view i) (c.overLimit (c.view i)))

/-- The transaction of the other login once a login has committed. -/
inductive Late (i : Login) : Phase → Prop where
  | begun : Late i .begun
  | inserted : Late i .inserted
  | scannedBefore : Late i (.scanned (c.view i.other))
  | scannedAfter : Late i (.scanned (c.serialView i))
  | locked {rows : List Row} (h : rows = c.serialView i ∨ rows = c.overlapView i) :
      Late i (.locked rows)
  | deleted {rows : List Row} (h : rows = c.serialView i ∨ rows = c.overlapView i) :
      Late i (.deleted rows (c.overLimit rows))

/-- What holds in every state the two logins reach. -/
inductive Reached (s : LoginState) : Prop where
  /-- Nothing is committed. Both have read only if no row was there to be seen by both. -/
  | neither (rows : s.rows = c.existing) (phase : ∀ i, c.Early i (s.phase i))
      (locks : (∀ i, (s.phase i).HasRead) → c.active c.existing = [])
  /-- One login has committed. -/
  | one (i : Login) (rows : s.rows = c.after i) (phase : s.phase i = .committed)
      (other : c.Late i (s.phase i.other))
  /-- Both have. -/
  | both (i : Login) (done : Done s)
      (rows : s.rows = c.final i (c.serialView i) ∨ s.rows = c.final i (c.overlapView i))

variable {c} {s s' : LoginState} {i k : Login}

/-- A phase other than a read's end has not read. -/
theorem Early.held_eq {p : Phase} (h : c.Early i p) (hread : p.HasRead) : p.held = c.view i := by
  cases h with
  | locked => rfl
  | deleted => rfl
  | _ => exact hread.elim

/-- A login that moves while the other stays where it is. -/
theorem early_advance {p : Phase} (h : ∀ i, c.Early i (s.phase i)) (hp : c.Early k p) (i : Login) :
    c.Early i ((s.advance k p).phase i) := by
  by_cases hik : i = k
  · subst hik
    rw [LoginState.advance_phase_self]
    exact hp
  · rw [LoginState.advance_phase_of_ne s p hik]
    exact h i

/-- The other login's transaction when a login commits first. -/
theorem Early.late {p : Phase} (h : c.Early i.other p)
    (hread : p.HasRead → c.active c.existing = []) : c.Late i p := by
  cases h with
  | begun => exact .begun
  | inserted => exact .inserted
  | scanned => exact .scannedBefore
  | locked => exact .locked (Or.inr (c.overlapView_eq_view i (hread trivial)).symm)
  | deleted => exact .deleted (Or.inr (c.overlapView_eq_view i (hread trivial)).symm)

/-- A statement while nothing is committed. -/
theorem reached_step_neither (hrows : s.rows = c.existing) (hphase : ∀ i, c.Early i (s.phase i))
    (hlocks : (∀ i, (s.phase i).HasRead) → c.active c.existing = [])
    (hstep : c.step s k = some s') : c.Reached s' := by
  -- a login that has not read leaves nothing to show about the locks
  have hnot : ∀ p, ¬p.HasRead → (∀ i, ((s.advance k p).phase i).HasRead) →
      c.active c.existing = [] := by
    intro p hp hall
    have hk := hall k
    rw [LoginState.advance_phase_self] at hk
    exact absurd hk hp
  have hk := hphase k
  unfold step at hstep
  generalize hp : s.phase k = p at hk hstep
  cases hk with
  | begun =>
      cases hstep
      exact .neither hrows (early_advance hphase .inserted) (hnot _ id)
  | inserted =>
      cases hstep
      refine .neither hrows (early_advance hphase ?_) (hnot _ id)
      rw [hrows]
      exact .scanned
  | scanned =>
      simp only at hstep
      split at hstep
      · cases hstep
      · rename_i hfree
        cases hstep
        have hview : (c.view k).filter (fun r => r ∈ s.rows ++ [c.row k]) = c.view k := by
          rw [hrows]
          exact c.active_filter_mem _
        rw [hview]
        refine .neither hrows (early_advance hphase .locked) fun hall => ?_
        -- the other has read too, and holds all that it read
        have hother := hall k.other
        rw [LoginState.advance_phase_of_ne s _ k.other_ne] at hother
        rw [(hphase k.other).held_eq hother, Bool.not_eq_true] at hfree
        exact c.active_existing_eq_nil hfree
  | locked =>
      cases hstep
      refine .neither hrows (early_advance hphase .deleted) fun hall => hlocks fun i => ?_
      by_cases hik : i = k
      · rw [hik, hp]
        trivial
      · have hi := hall i
        rwa [LoginState.advance_phase_of_ne s _ hik] at hi
  | deleted =>
      cases hstep
      refine .one k ?_ (s.advance_phase_self _) ?_
      · simp only [hrows]
        rfl
      · have hstay := s.advance_phase_of_ne .committed k.other_ne
        simp only [hstay]
        refine (hphase k.other).late fun hread => hlocks fun i => ?_
        rcases k.eq_or_eq_other i with rfl | rfl
        · rw [hp]
          trivial
        · exact hread

/-- A statement of the other login once a login has committed. -/
theorem reached_step_one (hrows : s.rows = c.after i) (hphase : s.phase i = .committed)
    (hother : c.Late i (s.phase i.other)) (hstep : c.step s k = some s') : c.Reached s' := by
  -- Every step of the other login that stays short of its commit is the same case again.
  have hone : ∀ p, c.Late i p →
      c.Reached (s.advance i.other p) := by
    intro p hp
    refine .one i hrows ?_ ?_
    · rw [LoginState.advance_phase_of_ne s p i.ne_other]
      exact hphase
    · rw [LoginState.advance_phase_self]
      exact hp
  -- The login that has committed makes no step.
  rcases i.eq_or_eq_other k with rfl | rfl
  · unfold step at hstep
    rw [hphase] at hstep
    cases hstep
  · unfold step at hstep
    generalize hp : s.phase i.other = p at hother hstep
    cases hother with
    | begun =>
        cases hstep
        exact hone _ .inserted
    | inserted =>
        cases hstep
        refine hone _ ?_
        rw [hrows]
        exact .scannedAfter
    | scannedBefore =>
        -- A row that the other login held would make this one wait.
        simp only at hstep
        split at hstep
        · cases hstep
        · cases hstep
          refine hone _ ?_
          rw [hrows]
          exact .locked (Or.inr rfl)
    | scannedAfter =>
        simp only at hstep
        split at hstep
        · cases hstep
        · cases hstep
          refine hone _ ?_
          rw [hrows]
          exact .locked (Or.inl (c.active_filter_mem _))
    | locked h =>
        cases hstep
        exact hone _ (.deleted h)
    | deleted h =>
        cases hstep
        -- The second commit is the last step: both logins have then committed.
        refine .both i (fun k => ?_) ?_
        · rcases i.eq_or_eq_other k with rfl | rfl
          · exact (s.advance_phase_of_ne .committed k.ne_other).trans hphase
          · exact s.advance_phase_self _
        · simp only [hrows]
          rcases h with rfl | rfl
          · exact Or.inl rfl
          · exact Or.inr rfl

/-- Every statement keeps to the states described. -/
theorem reached_step (h : c.Reached s) (hstep : c.step s k = some s') : c.Reached s' := by
  cases h with
  | neither hrows hphase hlocks => exact reached_step_neither hrows hphase hlocks hstep
  | one i hrows hphase hother => exact reached_step_one hrows hphase hother hstep
  | both i hdone hrows =>
      unfold step at hstep
      rw [hdone k] at hstep
      cases hstep

/-- Every schedule does. -/
theorem reached_run {schedule : List Login} (h : c.Reached s)
    (hrun : c.run s schedule = some s') : c.Reached s' := by
  induction schedule generalizing s with
  | nil =>
      cases hrun
      exact h
  | cons k schedule ih =>
      obtain ⟨t, hstep, hrest⟩ := Option.bind_eq_some_iff.mp hrun
      exact ih (reached_step h hstep) hrest

/-- Before the logins start nothing is committed. -/
theorem reached_init (c : TwoLogins) : c.Reached c.init :=
  .neither rfl (fun _ => .begun) fun h => (h .first).elim

/-- Two logins that are done leave the rows of a serial order, or of an overlap. -/
theorem rows_of_done {schedule : List Login} (hrun : c.run c.init schedule = some s)
    (hdone : Done s) :
    ∃ i, s.rows = c.final i (c.serialView i) ∨ s.rows = c.final i (c.overlapView i) := by
  cases reached_run c.reached_init hrun with
  | neither hrows hphase hlocks =>
      have hearly := hphase .first
      rw [hdone .first] at hearly
      cases hearly
  | one i hrows hphase hother =>
      rw [hdone i.other] at hother
      cases hother
  | both i hdone hrows => exact ⟨i, hrows⟩

/-! ## Schedules that run to their end -/

/-- Both logins take their snapshots before one of them commits, and that one reads first. -/
def overlap (i : Login) : List Login :=
  [i, i, i.other, i.other, i, i, i, i.other, i.other, i.other]

/-- The state when a login that has begun has its snapshot. -/
def snapshotFrom (c : TwoLogins) (s : LoginState) (i : Login) : LoginState :=
  (s.advance i .inserted).advance i (.scanned (c.active (s.rows ++ [c.row i])))

/-- A login that has begun can insert its row and take its snapshot. -/
theorem run_snapshot (h : s.phase i = .begun) (schedule : List Login) :
    c.run s (i :: i :: schedule) = c.run (c.snapshotFrom s i) schedule := by
  have hinsert : c.step s i = some (s.advance i .inserted) := by
    rw [step, h]
  have hscan : c.step (s.advance i .inserted) i = some (c.snapshotFrom s i) := by
    rw [step, LoginState.advance_phase_self]
    rfl
  rw [run, hinsert, Option.bind_some, run, hscan, Option.bind_some]

/-- The state when a login that has its snapshot locks its rows, deletes the excess and commits. -/
def commitFrom (c : TwoLogins) (s : LoginState) (i : Login) (snapshot : List Row) : LoginState where
  rows := (s.rows ++ [c.row i]).filter fun r =>
    r ∉ c.overLimit (snapshot.filter fun r => r ∈ s.rows ++ [c.row i])
  phase := (s.advance i .committed).phase

/-- A login that has its snapshot can go on to its end while the other holds no lock. -/
theorem run_commit {snapshot : List Row} (h : s.phase i = .scanned snapshot)
    (hother : (s.phase i.other).held = []) (schedule : List Login) :
    c.run s (i :: i :: i :: schedule) = c.run (c.commitFrom s i snapshot) schedule := by
  have hlock : c.step s i =
      some (s.advance i (.locked (snapshot.filter fun r => r ∈ s.rows ++ [c.row i]))) := by
    have hfree : (snapshot.any fun r => r ∈ (s.phase i.other).held) = false := by simp [hother]
    rw [step, h]
    simp only [hfree]
    rfl
  rw [run, hlock, Option.bind_some, run, step, LoginState.advance_phase_self, Option.bind_some, run,
    step, LoginState.advance_phase_self, Option.bind_some]
  simp only [commitFrom, LoginState.advance, Function.update_idem]

/-- A login that has committed is done. -/
theorem commitFrom_phase_self (snapshot : List Row) :
    (c.commitFrom s i snapshot).phase i = .committed := s.advance_phase_self _

/-- The other login is where it was. -/
theorem commitFrom_phase_of_ne (snapshot : List Row) (h : k ≠ i) :
    (c.commitFrom s i snapshot).phase k = s.phase k := s.advance_phase_of_ne _ h

/-- A login whose snapshot is still complete deletes the excess of its snapshot. -/
theorem commitFrom_rows {rows : List Row} (h : s.rows = rows) :
    (c.commitFrom s i (c.active (rows ++ [c.row i]))).rows =
      (rows ++ [c.row i]).filter fun r => r ∉ c.overLimit (c.active (rows ++ [c.row i])) := by
  rw [commitFrom, h, c.active_filter_mem]

/-- The login has its snapshot. -/
theorem snapshotFrom_phase_self :
    (c.snapshotFrom s i).phase i = .scanned (c.active (s.rows ++ [c.row i])) :=
  LoginState.advance_phase_self ..

/-- The other login is where it was. -/
theorem snapshotFrom_phase_of_ne (h : k ≠ i) : (c.snapshotFrom s i).phase k = s.phase k := by
  rw [snapshotFrom, LoginState.advance_phase_of_ne _ _ h, LoginState.advance_phase_of_ne _ _ h]

/-- A serial order runs without waiting. -/
theorem run_serial (c : TwoLogins) (i : Login) :
    ∃ s, c.run c.init (serial i) = some s ∧ Done s ∧ s.rows = c.final i (c.serialView i) := by
  -- the first login from its beginning to its end
  let s₁ := c.snapshotFrom c.init i
  let s₂ := c.commitFrom s₁ i (c.view i)
  have hidle : s₁.phase i.other = .begun := snapshotFrom_phase_of_ne i.other_ne
  have hrows : s₂.rows = c.after i := commitFrom_rows rfl
  have hbegun : s₂.phase i.other = .begun :=
    (commitFrom_phase_of_ne _ i.other_ne).trans hidle
  -- then the other one
  let s₃ := c.snapshotFrom s₂ i.other
  have hdone : s₃.phase i = .committed :=
    (snapshotFrom_phase_of_ne i.ne_other).trans (commitFrom_phase_self _)
  have hscanned : s₃.phase i.other = .scanned (c.serialView i) := by
    rw [snapshotFrom_phase_self, hrows]
    rfl
  refine ⟨c.commitFrom s₃ i.other (c.serialView i), ?_, fun k => ?_, ?_⟩
  · calc c.run c.init (serial i)
        = c.run s₁ [i, i, i, i.other, i.other, i.other, i.other, i.other] := run_snapshot rfl _
      _ = c.run s₂ [i.other, i.other, i.other, i.other, i.other] :=
        run_commit snapshotFrom_phase_self (by rw [hidle]; rfl) _
      _ = c.run s₃ [i.other, i.other, i.other] := run_snapshot hbegun _
      _ = some (c.commitFrom s₃ i.other (c.serialView i)) :=
        run_commit hscanned (by rw [i.other_other, hdone]; rfl) []
  · rcases i.eq_or_eq_other k with rfl | rfl
    · exact (commitFrom_phase_of_ne _ k.ne_other).trans hdone
    · exact commitFrom_phase_self _
  · exact commitFrom_rows hrows

/-- Overlapping logins can run to their end as well. -/
theorem run_overlap (c : TwoLogins) (i : Login) :
    ∃ s, c.run c.init (overlap i) = some s ∧ Done s ∧ s.rows = c.final i (c.overlapView i) := by
  -- both take their snapshots
  let s₁ := c.snapshotFrom c.init i
  let s₂ := c.snapshotFrom s₁ i.other
  have hidle : s₁.phase i.other = .begun := snapshotFrom_phase_of_ne i.other_ne
  have hfirst : s₂.phase i = .scanned (c.view i) :=
    (snapshotFrom_phase_of_ne i.ne_other).trans snapshotFrom_phase_self
  have hsecond : s₂.phase i.other = .scanned (c.view i.other) := snapshotFrom_phase_self
  -- one of them commits, then the other
  let s₃ := c.commitFrom s₂ i (c.view i)
  have hrows : s₃.rows = c.after i := commitFrom_rows rfl
  have hdone : s₃.phase i = .committed := commitFrom_phase_self _
  have hwaiting : s₃.phase i.other = .scanned (c.view i.other) :=
    (commitFrom_phase_of_ne _ i.other_ne).trans hsecond
  refine ⟨c.commitFrom s₃ i.other (c.view i.other), ?_, fun k => ?_, ?_⟩
  · calc c.run c.init (overlap i)
        = c.run s₁ [i.other, i.other, i, i, i, i.other, i.other, i.other] := run_snapshot rfl _
      _ = c.run s₂ [i, i, i, i.other, i.other, i.other] := run_snapshot hidle _
      _ = c.run s₃ [i.other, i.other, i.other] := run_commit hfirst (by rw [hsecond]; rfl) _
      _ = some (c.commitFrom s₃ i.other (c.view i.other)) :=
        run_commit hwaiting (by rw [i.other_other, hdone]; rfl) []
  · rcases i.eq_or_eq_other k with rfl | rfl
    · exact (commitFrom_phase_of_ne _ k.ne_other).trans hdone
    · exact commitFrom_phase_self _
  · rw [commitFrom, hrows]
    rfl

end TwoLogins

end AapGateway.Sessions
