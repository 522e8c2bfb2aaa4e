import AapGateway.Tools.UpgradeRunner

/-!
# The databases of an upgrade run

A run works with one database after the other: with the one that it is started for, and after the
round trip with a temporary one. What it may do to them, and when, is an abstract machine with four
phases. Every run follows the machine, whatever the commands and files answer: nothing is made,
restored into or dropped but the database whose name the run has just been given, no stage works
with a database that is not its own, and nothing is run after `dropdb`.

`dropdb` is run for every temporary database, unless an exception comes up that the runner does not
catch. This rests on the check of the arguments: no two stages have the same name, so at most one of
them makes a database. A `dropdb` that fails is only a warning of the runner.

## Main definitions

* `DatabaseStep`: the abstract machine, with the phases `Phase`;
* `At`: where the machine is, and what the runner knows of it;
* `Recoverable` and `Settled`: the temporary database can still be dropped, and none is to be.

## Main results

* `dropdb_mem_of_path`: in which phases `dropdb` has been run for what was created;
* `turn_spec`: what one stage keeps;
* `run_follows`: every run follows the machine, and has run `dropdb` for whatever it created when it
  returns or raises a `MigrationUpgradeError`.
-/

namespace AapGateway.Tools

open Effects Std.Do MigrationUpgradeRunner

set_option mvcgen.warning false

/-! ## The machine -/

/-- What no database is part of: files, the commit of a checkout, a new name. -/
def Op.WithoutDatabase : Op → Prop
  | .runCommand _ _ _ => False
  | _ => True

/-- What has become of the databases. -/
inductive Phase where
  /-- Only the database that the run is started for is in use. -/
  | original
  /-- It is, and the run has been given this name. -/
  | named (name : String)
  /-- There may be a temporary database of this name. -/
  | snapshot (name : String)
  /-- `dropdb` has been run for the temporary database. -/
  | closed

/-- The database that the programs of a stage work with. -/
def Phase.database (original : Option String) : Phase → Option (Option String)
  | .original => some original
  | .named _ => some original
  | .snapshot name => some (some name)
  | .closed => none

/-- What may be done to the databases. -/
inductive DatabaseStep (host : Host Op.Answer Exn) (original : Option String) :
    List Op → Phase → Op → Phase → Prop
  | other {trace : List Op} {p : Phase} {op : Op} (h : op.WithoutDatabase) :
      DatabaseStep host original trace p op p
  /-- The only names that are used are answers to the run. -/
  | name {trace : List Op} {name : String} (h : host trace .newDatabaseName = .ok name)
      (hname : isSnapshotDatabase name = true) :
      DatabaseStep host original trace .original .newDatabaseName (.named name)
  /-- A stage works with the database of the phase. -/
  | program {trace : List Op} {p : Phase} {argv : List String} {cwd : String} {env : Env}
      (h : p.database original = some (env.get? "DATABASE_NAME")) :
      DatabaseStep host original trace p (.runCommand (.program argv) cwd env) p
  | dump {trace : List Op} {name dbname file cwd : String} {env : Env}
      (h : original = some dbname) :
      DatabaseStep host original trace (.named name) (.runCommand (.pgDump file dbname) cwd env)
        (.named name)
  | create {trace : List Op} {name cwd : String} {env : Env} :
      DatabaseStep host original trace (.named name) (.runCommand (.createdb name) cwd env)
        (.snapshot name)
  | restore {trace : List Op} {name file cwd : String} {env : Env} :
      DatabaseStep host original trace (.snapshot name)
        (.runCommand (.pgRestore name file) cwd env) (.snapshot name)
  /-- The round trip may have failed before there was anything to drop. -/
  | drop {trace : List Op} {p : Phase} {name cwd : String} {env : Env}
      (h : p = .named name ∨ p = .snapshot name) :
      DatabaseStep host original trace p (.runCommand (.dropdb name) cwd env) .closed

section Machine

variable {host : Host Op.Answer Exn} {original : Option String} {trace : List Op} {p : Phase}

/-- `dropdb` is run for a database that is created, unless the machine stays in its phase. -/
theorem dropdb_mem_of_path (h : Path (DatabaseStep host original) .original trace p)
    {before after : List Op} {name cwd : String} {env : Env}
    (htrace : trace = before ++ .runCommand (.createdb name) cwd env :: after) :
    p = .snapshot name ∨ ∃ cwd env, .runCommand (.dropdb name) cwd env ∈ after := by
  induction h generalizing after with
  | start => exact absurd htrace (by simp)
  | @step trace p p' op _ hstep ih =>
      -- The last operation is the creation itself, or the creation is part of the shorter trace.
      rcases List.eq_nil_or_concat after with rfl | ⟨earlier, last, rfl⟩
      · obtain ⟨-, hlast⟩ := List.append_inj' htrace rfl
        cases hlast
        cases hstep with
        | other hother => exact hother.elim
        | create => exact Or.inl rfl
      · rw [List.concat_eq_append, ← List.cons_append, ← List.append_assoc] at htrace
        obtain ⟨hbefore, hlast⟩ := List.append_inj' htrace rfl
        rcases ih hbefore with hphase | ⟨cwd', env', hdropped⟩
        · cases hstep with
          | other hother => exact Or.inl hphase
          | name hanswer hname => cases hphase
          | program henv => exact Or.inl hphase
          | dump horiginal => cases hphase
          | create => cases hphase
          | restore => exact Or.inl hphase
          | @drop _ name' cwd' env' hopen =>
              rcases hopen with rfl | rfl
              · cases hphase
              · cases hphase
                cases hlast
                exact Or.inr ⟨cwd', env', by simp⟩
        · exact Or.inr ⟨cwd', env', by simp [hdropped]⟩

end Machine

/-! ## Invariants -/

/-- The attributes that say which database is in use and which one is to be dropped. -/
def RunnerState.tracked (s : RunnerState) : Option String × Option String × Option Stage :=
  (s.baseEnv.get? "DATABASE_NAME", s.snapshotDatabaseName, s.snapshotStage)

/-- An invariant for which only the commands and the tracked attributes matter. -/
structure Quiet (I : World Op RunnerState → Prop) : Prop where
  record : ∀ op : Op, op.WithoutDatabase → ∀ w, I w → I (w.record op)
  update : ∀ (w : World Op RunnerState) s, s.tracked = w.state.tracked → I w →
    I { w with state := s }

/-- An invariant that the programs of a stage keep. -/
def Runs (env : Env) (I : World Op RunnerState → Prop) : Prop :=
  ∀ argv cwd w, I w → I (w.record (.runCommand (.program argv) cwd env))

/-- What holds in one world and is quiet holds in the other one. -/
def Follows (w w' : World Op RunnerState) : Prop :=
  ∀ I : World Op RunnerState → Prop, Quiet I → I w → I w'

section Quiet

variable {I J : World Op RunnerState → Prop}

/-- Quiet invariants are kept by what no database is part of. -/
theorem Quiet.ask (hI : Quiet I) (host : Host Op.Answer Exn) (op : Op) (hop : op.WithoutDatabase) :
    Keeps I (ask host op : Run op.Answer) :=
  ask_spec host (hI.record op hop)

/-- They are kept by changes of what is not tracked. -/
theorem Quiet.updated (hI : Quiet I) (f : RunnerState → RunnerState)
    (hf : ∀ s, (f s).tracked = s.tracked) :
    ⦃fun w => ⌜I w⌝⦄ (Effects.update f : Run Unit)
    ⦃post⟨fun _ w => ⌜I w⌝, fun _ _ => ⌜False⌝⟩⦄ :=
  update_spec fun w => hI.update w _ (hf w.state)

/-- One of two quiet invariants is quiet. -/
theorem Quiet.or (hI : Quiet I) (hJ : Quiet J) : Quiet fun w => I w ∨ J w where
  record op hop w := Or.imp (hI.record op hop w) (hJ.record op hop w)
  update w s hs := Or.imp (hI.update w s hs) (hJ.update w s hs)

/-- So are both together. -/
theorem Quiet.and (hI : Quiet I) (hJ : Quiet J) : Quiet fun w => I w ∧ J w where
  record op hop w := And.imp (hI.record op hop w) (hJ.record op hop w)
  update w s hs := And.imp (hI.update w s hs) (hJ.update w s hs)

/-- So is one of many. -/
theorem Quiet.exists {ι : Sort*} {K : ι → World Op RunnerState → Prop} (h : ∀ i, Quiet (K i)) :
    Quiet fun w => ∃ i, K i w where
  record op hop w := Exists.imp fun i => (h i).record op hop w
  update w s hs := Exists.imp fun i => (h i).update w s hs

/-- What does not depend on the world is quiet. -/
theorem quiet_const (p : Prop) : Quiet fun _ => p where
  record _ _ _ h := h
  update _ _ _ h := h

/-- To follow a world is quiet. -/
theorem quiet_follows (w : World Op RunnerState) : Quiet (Follows w) where
  record op hop w' h I hI hw := hI.record op hop w' (h I hI hw)
  update w' s hs h I hI hw := hI.update w' s hs (h I hI hw)

/-- What keeps every quiet invariant leads to a world that follows the one before. -/
theorem follows_of_keeps {α : Type} {x : Run α} (h : ∀ I, Quiet I → Keeps I x)
    (w : World Op RunnerState) :
    ⦃fun w' => ⌜w' = w⌝⦄ x ⦃post⟨fun _ w' => ⌜Follows w w'⌝, fun _ w' => ⌜Follows w w'⌝⟩⦄ := by
  have hx := h _ (quiet_follows w)
  mvcgen [hx]
  subst ‹_ = w›
  exact fun I _ hw => hw

/-- So do changes of what is not tracked. -/
theorem follows_update (f : RunnerState → RunnerState) (hf : ∀ s, (f s).tracked = s.tracked)
    (w : World Op RunnerState) :
    ⦃fun w' => ⌜w' = w⌝⦄ (update f : Run Unit)
    ⦃post⟨fun _ w' => ⌜Follows w w'⌝, fun _ _ => ⌜False⌝⟩⦄ := by
  have hupdate := (quiet_follows w).updated f hf
  mvcgen [hupdate]
  subst ‹_ = w›
  exact fun I _ hw => hw

end Quiet

/-! ## What touches no other database -/

section Local

variable (py : Python) (host : Host Op.Answer Exn) (r : MigrationUpgradeRunner) (stage : Stage)
  {env : Env} {I J : World Op RunnerState → Prop}

/-- `_execute` runs its command and writes the log. -/
theorem keeps_execute (hI : Quiet I) (hruns : Runs env I) (argv : List String) :
    Keeps I (execute py host (.program argv) stage env) := by
  have hlog := fun text => hI.ask host (.writeLog text) trivial
  have hflush := hI.ask host .flushLog trivial
  have hrun := ask_spec host (hruns argv stage.path)
  mvcgen [execute, hrun, hlog, hflush]

/-- The commit of a stage is read. -/
theorem keeps_stageSha (hI : Quiet I) : Keeps I (stageSha py host stage) := by
  have hask := hI.ask host
  mvcgen [stageSha, hask]
  exact id

/-- The policy is read. -/
theorem keeps_loadPolicy (hI : Quiet I) : Keeps I (loadPolicy py host r) := by
  have hask := hI.ask host
  mvcgen [loadPolicy, hask]

/-- The helpers are copied. -/
theorem keeps_copyStageVenvHelpers (hI : Quiet I) :
    Keeps I (copyStageVenvHelpers py host r stage) := by
  have hask := hI.ask host
  mvcgen [copyStageVenvHelpers, hask]
  -- The loop over the helpers keeps the same invariant.
  case inv1 => exact post⟨fun _ w => ⌜I w⌝, fun _ w => ⌜I w⌝⟩
  case vc16.post.success.post.except =>
    refine ⟨fun e => ?_, trivial⟩
    mvcgen
  all_goals simp_all

/-- A command of the round trip leads from one invariant to the other. -/
theorem runSnapshotCommand_spec (hI : Quiet I) {command : Command} (description : String)
    (hcommand : ∀ w, I w → J (w.record (.runCommand command stage.path env))) :
    ⦃fun w => ⌜I w⌝⦄ runSnapshotCommand host command description stage env
    ⦃post⟨fun _ w => ⌜J w⌝, fun _ w => ⌜I w ∨ J w⌝⟩⦄ := by
  have hlog := fun text => hI.ask host (.writeLog text) trivial
  have hflush := hI.ask host .flushLog trivial
  have hrun := ask_spec host hcommand
  mvcgen [runSnapshotCommand, hlog, hflush, hrun]
  all_goals first | exact Or.inl | exact Or.inr ‹J _›

/-- It keeps what its command keeps. -/
theorem keeps_runSnapshotCommand (hI : Quiet I) {command : Command} (description : String)
    (hcommand : ∀ w, I w → I (w.record (.runCommand command stage.path env))) :
    Keeps I (runSnapshotCommand host command description stage env) := by
  simpa only [or_self] using runSnapshotCommand_spec host stage hI description hcommand

/-- The state that the helper has written is read. -/
theorem keeps_readStateSnapshot (hI : Quiet I) (path : String) :
    Keeps I (readStateSnapshot py host path) := by
  have hask := hI.ask host
  mvcgen [readStateSnapshot, hask]

/-- The fixture is read by a program of the stage. -/
theorem keeps_verifyFixtureAfterStage (hI : Quiet I) (hruns : Runs env I) :
    Keeps I (verifyFixtureAfterStage py host r stage env) := by
  have hask := hI.ask host
  have hupdate := fun f => hI.updated (updateResult f) fun _ => rfl
  have hcommand := fun argv description =>
    keeps_runSnapshotCommand host stage hI description (hruns argv stage.path)
  mvcgen [verifyFixtureAfterStage, hask, hupdate, hcommand, getState]

/-- The migrations are run by programs of the stage. -/
theorem keeps_migrateStage (hI : Quiet I) (hruns : Runs env I) :
    Keeps I (migrateStage py host r stage env) := by
  have hask := hI.ask host
  have hexecute := keeps_execute py host stage hI hruns
  have hcopy := keeps_copyStageVenvHelpers py host r stage hI
  mvcgen [migrateStage, hask, hexecute, hcopy]

/-- The inventory is collected by a program of the stage. -/
theorem keeps_collectInventory (hI : Quiet I) (hruns : Runs env I) (sha : String) :
    Keeps I (collectInventory py host r stage sha env) := by
  have hask := hI.ask host
  have hupdate := fun f => hI.updated (updateResult f) fun _ => rfl
  have hexecute := keeps_execute py host stage hI hruns
  mvcgen [collectInventory, hask, hexecute, hupdate]

/-- The inventory is checked. -/
theorem keeps_checkInventory (hI : Quiet I) (policy : UpgradePolicy)
    (inventory : CollectedInventory) (document : Dict Json) :
    Keeps I (checkInventory py policy stage inventory document) := by
  have hupdate := hI.updated
  mvcgen [checkInventory, getState, hupdate]
  all_goals exact fun _ => rfl

/-- The files that the summary names are looked for. -/
theorem keeps_fileLine (hI : Quiet I) (path : Option String) (line : String → String) :
    Keeps I (fileLine host path line) := by
  have hask := hI.ask host
  mvcgen [fileLine, hask]

/-- The lines of a stage are put together. -/
theorem keeps_resultLines (hI : Quiet I) (result : StageResult) :
    Keeps I (resultLines py host result) := by
  have hline := keeps_fileLine host hI
  mvcgen [resultLines, hline]

/-- The summary is written. -/
theorem keeps_writeSummary (hI : Quiet I) : Keeps I (writeSummary py host r) := by
  have hwrite := fun path text => hI.ask host (.writeText path text) trivial
  have hlines := keeps_resultLines py host hI
  mvcgen [writeSummary, getState, hlines, hwrite]
  -- The loop over the results keeps the same invariant.
  case inv1 => exact post⟨fun _ w => ⌜I w⌝, fun _ w => ⌜I w⌝⟩
  all_goals simp_all

/-- After a failure it is written without an exception. -/
theorem writeSummaryBestEffort_spec (hI : Quiet I) :
    ⦃fun w => ⌜I w⌝⦄ writeSummaryBestEffort py host r
    ⦃post⟨fun _ w => ⌜I w⌝, fun _ _ => ⌜False⌝⟩⦄ := by
  have hsummary := keeps_writeSummary py host r hI
  mvcgen [writeSummaryBestEffort, hsummary]

/-- The directories are made, and the helpers are copied. -/
theorem keeps_prepare (hI : Quiet I) : Keeps I (prepare host r) := by
  have hmkdir := fun path => hI.ask host (.mkdir path) trivial
  have hcopy := fun source destination => hI.ask host (.copyFile source destination) trivial
  mvcgen [prepare, hmkdir, hcopy]
  exact id

/-- The diagnostics are written. -/
theorem keeps_compareStates (hI : Quiet I) (dumpSha256 : String)
    (sourceState restoredState : Dict Json) :
    Keeps I (compareStates py host r stage dumpSha256 sourceState restoredState) := by
  have hask := hI.ask host
  have hupdate := fun f => hI.updated (updateResult f) fun _ => rfl
  mvcgen [compareStates, hask, hupdate]

/-- The dump is removed. -/
theorem keeps_removeDump (hI : Quiet I) (dumpPath : String) :
    Keeps I (removeDump host dumpPath) := by
  have hask := hI.ask host
  have hupdate := hI.updated
  mvcgen [removeDump, hask, hupdate]
  exact fun _ => rfl

/-- The diagnostics are written again. -/
theorem keeps_rewriteDiagnostic (hI : Quiet I) (diagnosticPath : String) :
    Keeps I (rewriteDiagnostic host diagnosticPath) := by
  have hask := hI.ask host
  have hstatus := hI.updated (setSnapshotStatus "failed") fun _ => rfl
  mvcgen [rewriteDiagnostic, hask, hstatus, getState]
  exact id

end Local

/-! ## Where a run is -/

section Definitions

variable (host : Host Op.Answer Exn) (original : Option String)

/-- The operations so far lead to a phase, and the runner keeps track of these databases. -/
def At (p : Phase) (t : Option String × Option String × Option Stage)
    (w : World Op RunnerState) : Prop :=
  Path (DatabaseStep host original) .original w.trace p ∧ w.state.tracked = t

/-- The run has been given a name, which it may use if it is one of a temporary database. -/
def Offered (name : String) (w : World Op RunnerState) : Prop :=
  At host original .original (original, none, none) w ∧
    (isSnapshotDatabase name = true → At host original (.named name) (original, none, none) w)

/-- There may be a temporary database of the name that the run has been given. -/
def MayExist (name : String) (t : Option String × Option String × Option Stage)
    (w : World Op RunnerState) : Prop :=
  At host original (.named name) t w ∨ At host original (.snapshot name) t w

/-- The temporary database can be dropped if there is one. -/
def Recoverable (w : World Op RunnerState) : Prop :=
  ∃ db, (∃ p, (∀ name, p ≠ .snapshot name) ∧ At host original p (db, none, none) w) ∨
    ∃ name stage, MayExist host original name (db, some name, some stage) w

/-- No temporary database is to be dropped. -/
def Settled (w : World Op RunnerState) : Prop :=
  ∃ p t, (∀ name, p ≠ .snapshot name) ∧ At host original p t w

/-- The stages to come work with the database of the phase. None of them makes another one. -/
def ReadyFor (r : MigrationUpgradeRunner) (later : List Stage) (w : World Op RunnerState) : Prop :=
  At host original .original (original, none, none) w ∨
    ∃ name stage, At host original (.snapshot name) (some name, some name, some stage) w ∧
      ∀ stage ∈ later, some stage.name ≠ r.snapshotRoundTripAfter

/-- What has been done is allowed, and a `MigrationUpgradeError` passes over no `dropdb`. -/
def Ended (e : Exn) (w : World Op RunnerState) : Prop :=
  (∃ p, Path (DatabaseStep host original) .original w.trace p) ∧
    ∀ message, e = .upgrade message → Settled host original w

end Definitions

section Where

variable {host : Host Op.Answer Exn} {original db : Option String} {p p' : Phase} {name : String}
  {env : Env} {t : Option String × Option String × Option Stage} {w : World Op RunnerState}

/-- A step of the machine. -/
theorem At.step {op : Op} (h : ∀ trace, DatabaseStep host original trace p op p') :
    ∀ w, At host original p t w → At host original p' t (w.record op) :=
  fun w hw => ⟨hw.1.step (h w.trace), hw.2⟩

/-- A temporary database is to be dropped. -/
theorem At.remember (h : At host original p (db, none, none) w) (name : String) (stage : Stage) :
    At host original p (db, some name, some stage) { w with state := { w.state with
      snapshotDatabaseName := some name, snapshotStage := some stage } } := by
  refine ⟨h.1, Prod.ext ?_ rfl⟩
  have hdatabase := congrArg Prod.fst h.2
  exact hdatabase

/-- The stages to come work with another database. -/
theorem At.useDatabase (h : At host original p t w) (name : String) (fixture : Json) :
    At host original p (some name, t.2) { w with state := { w.state with
      expectedFixtureSnapshot := some fixture
      baseEnv := w.state.baseEnv.set "DATABASE_NAME" name } } := by
  refine ⟨h.1, Prod.ext ?_ ?_⟩
  · exact (Dict.get?_set ..).trans (if_pos rfl)
  · have htracked := congrArg Prod.snd h.2
    exact htracked

/-- Where a run is, is quiet. -/
theorem quiet_at : Quiet (At host original p t) where
  record _ hop := At.step fun _ => .other hop
  update _ _ hs hw := ⟨hw.1, hs.trans hw.2⟩

/-- Whether there may be a temporary database is quiet. -/
theorem quiet_mayExist : Quiet (MayExist host original name t) :=
  quiet_at.or quiet_at

/-- Whether it can be dropped is quiet. -/
theorem quiet_recoverable : Quiet (Recoverable host original) := by
  refine Quiet.exists fun db => Quiet.or ?_ ?_
  · exact Quiet.exists fun p => (quiet_const _).and quiet_at
  · exact Quiet.exists fun name => Quiet.exists fun stage => quiet_mayExist

/-- Whether none is to be dropped is quiet. -/
theorem quiet_settled : Quiet (Settled host original) :=
  Quiet.exists fun _ => Quiet.exists fun _ => (quiet_const _).and quiet_at

/-- What the stages to come work with is quiet. -/
theorem quiet_readyFor {r : MigrationUpgradeRunner} {later : List Stage} :
    Quiet (ReadyFor host original r later) := by
  refine quiet_at.or ?_
  exact Quiet.exists fun name => Quiet.exists fun stage => quiet_at.and (quiet_const _)

/-- The programs of a stage may work with the database of the phase. -/
theorem runs_at (h : p.database original = some (env.get? "DATABASE_NAME")) :
    Runs env (At host original p t) :=
  fun _ _ => At.step fun _ => .program h

/-- Before the round trip there is nothing to drop. -/
theorem recoverable_of_untracked (hp : ∀ name, p ≠ .snapshot name)
    (h : At host original p (db, none, none) w) : Recoverable host original w :=
  ⟨db, Or.inl ⟨p, hp, h⟩⟩

/-- So there is at the start of a stage. -/
theorem recoverable_of_original (h : At host original .original (db, none, none) w) :
    Recoverable host original w :=
  recoverable_of_untracked (by simp) h

/-- Before the round trip none is to be dropped. -/
theorem settled_of_original (h : At host original .original t w) : Settled host original w :=
  ⟨.original, t, by simp, h⟩

/-- A name alone is nothing to drop. -/
theorem Offered.recoverable (h : Offered host original name w) : Recoverable host original w :=
  recoverable_of_original h.1

/-- Between two stages the temporary database can be dropped. -/
theorem ReadyFor.recoverable {r : MigrationUpgradeRunner} {later : List Stage}
    (h : ReadyFor host original r later w) : Recoverable host original w := by
  rcases h with hat | ⟨name, stage, hat, -⟩
  · exact recoverable_of_original hat
  · exact ⟨some name, Or.inr ⟨name, stage, Or.inr hat⟩⟩

/-- What has been done before is allowed. -/
theorem Recoverable.path (h : Recoverable host original w) :
    ∃ p, Path (DatabaseStep host original) .original w.trace p := by
  obtain ⟨db, ⟨p, -, hat⟩ | ⟨name, stage, hat | hat⟩⟩ := h
  · exact ⟨_, hat.1⟩
  · exact ⟨_, hat.1⟩
  · exact ⟨_, hat.1⟩

/-- Nothing is promised of an exception that the runner does not catch. -/
theorem ended_of_other {e : Exn} (hother : ∀ message, e = .upgrade message → False)
    (h : Recoverable host original w) : Ended host original e w :=
  ⟨h.path, fun message he => (hother message he).elim⟩

/-- Any exception may end a run where none is to be dropped. -/
theorem ended_of_settled {e : Exn} (h : Settled host original w) : Ended host original e w := by
  have hsettled := h
  obtain ⟨p, t, -, hat⟩ := h
  exact ⟨⟨p, hat.1⟩, fun _ _ => hsettled⟩

/-- Dropping the database that the runner keeps track of leaves none to be dropped. -/
theorem settled_of_drop {w' : World Op RunnerState} (h : Recoverable host original w)
    (hname : w.state.snapshotDatabaseName = some name)
    (htrace : ∃ cwd env, w'.trace = w.trace ++ [.runCommand (.dropdb name) cwd env]) :
    Settled host original w' := by
  obtain ⟨cwd, env, htrace⟩ := htrace
  -- The machine may drop it in both phases: `createdb` may have failed.
  have hdrop : ∀ p, Path (DatabaseStep host original) .original w.trace p →
      (p = .named name ∨ p = .snapshot name) → Settled host original w' := by
    intro p hpath hp
    refine ⟨.closed, _, by simp, ?_, rfl⟩
    rw [htrace]
    exact hpath.step (.drop hp)
  obtain ⟨db, ⟨p, -, hat⟩ | ⟨name', stage, hexists⟩⟩ := h
  · have hnone : w.state.snapshotDatabaseName = none := congrArg (fun t => t.2.1) hat.2
    rw [hname] at hnone
    cases hnone
  · have hsame : ∀ p, At host original p (db, some name', some stage) w → name' = name := by
      intro p hat
      have hsome : w.state.snapshotDatabaseName = some name' := congrArg (fun t => t.2.1) hat.2
      exact Option.some.inj (hsome.symm.trans hname)
    rcases hexists with hat | hat
    · obtain rfl := hsame _ hat
      exact hdrop _ hat.1 (Or.inl rfl)
    · obtain rfl := hsame _ hat
      exact hdrop _ hat.1 (Or.inr rfl)

/-- Where it keeps track of none, none is to be dropped. -/
theorem settled_of_none (h : Recoverable host original w)
    (hnone : ∀ name stage, w.state.snapshotDatabaseName = some name →
      w.state.snapshotStage = some stage → False) : Settled host original w := by
  obtain ⟨db, ⟨p, hp, hat⟩ | ⟨name, stage, hexists⟩⟩ := h
  · exact ⟨p, _, hp, hat⟩
  · have htracked : w.state.tracked = (db, some name, some stage) :=
      hexists.elim And.right And.right
    exact (hnone name stage (congrArg (fun t => t.2.1) htracked)
      (congrArg (fun t => t.2.2) htracked)).elim

end Where

/-! ## Environment variables -/

section Variables

variable {env : Env}

/-- Variables that are not copied to stay as they are. -/
theorem get?_copyVariables {pairs : List (String × String)} {key : String}
    (h : ∀ pair ∈ pairs, pair.2 ≠ key) (env : Env) :
    (copyVariables pairs env).get? key = env.get? key := by
  induction pairs generalizing env with
  | nil => rfl
  | cons pair pairs ih =>
      obtain ⟨hpair, hpairs⟩ := List.forall_mem_cons.mp h
      rw [copyVariables, List.foldl_cons]
      refine (ih hpairs _).trans ?_
      split
      · rw [Dict.get?_set, if_neg hpair.symm]
      · rfl

/-- A stage works with the database of the run. -/
theorem get?_stageEnv (baseEnv : Env) (stage : Stage) (venvDir : String) :
    (stageEnv baseEnv stage venvDir).get? "DATABASE_NAME" = baseEnv.get? "DATABASE_NAME" := by
  -- The name is not one of libpq's variables, and none of the variables that are set.
  have hlibpq : (withoutLibpq baseEnv).get? "DATABASE_NAME" = baseEnv.get? "DATABASE_NAME" := by
    rw [withoutLibpq, Dict.get?_without, if_neg]
    intro hmem
    exact absurd (List.mem_filter.mp hmem).2 (by decide)
  rw [stageEnv, Dict.get?_setDefault, if_neg (by decide), Option.or_none, Dict.get?_set,
    if_neg (by decide), Dict.get?_set, if_neg (by decide), get?_copyVariables (by decide), hlibpq]

/-- It works with the database that the runner keeps track of. -/
theorem get?_stageEnv_of_at {original db : Option String} {p : Phase}
    {tail : Option String × Option Stage} {w : World Op RunnerState}
    (h : At host original p (db, tail) w) (stage : Stage) (venvDir : String) :
    (stageEnv w.state.baseEnv stage venvDir).get? "DATABASE_NAME" = db := by
  rw [get?_stageEnv]
  have hdatabase := congrArg Prod.fst h.2
  exact hdatabase

/-- A simple database name is one that is set. -/
theorem eq_some_of_isDatabaseName {o : Option String} (h : isDatabaseName (o.getD "") = true) :
    o = some (o.getD "") := by
  cases o with
  | none => cases h
  | some name => rfl

/-- The environment that is accepted names a database. -/
theorem validateSnapshotEnvironment_spec (env : Env) (I : World Op RunnerState → Prop) :
    ⦃fun w => ⌜I w⌝⦄ validateSnapshotEnvironment env
    ⦃post⟨fun name w => ⌜I w ∧ env.get? "DATABASE_NAME" = some name⌝, fun _ w => ⌜I w⌝⟩⦄ := by
  mvcgen [validateSnapshotEnvironment]
  rename_i hname _ _ _ _ _ _ _
  exact ⟨‹_›, eq_some_of_isDatabaseName (Bool.eq_true_of_not_eq_false hname)⟩

end Variables

/-! ## The round trip -/

section RoundTrip

variable (py : Python) (host : Host Op.Answer Exn) (r : MigrationUpgradeRunner) (stage : Stage)
  (t : Option String × Option String × Option Stage) (databaseName : String) {env : Env}
  {name : String}

/-- The database is dumped. -/
theorem keeps_dumpDatabase (henv : env.get? "DATABASE_NAME" = some name) (dumpPath : String) :
    Keeps (At host (some name) (.named databaseName) t)
      (dumpDatabase py host r stage env name dumpPath) := by
  have hI : Quiet (At host (some name) (.named databaseName) t) := quiet_at
  have hask := hI.ask host
  have hruns : Runs env (At host (some name) (.named databaseName) t) :=
    runs_at (congrArg some henv.symm)
  have hprogram := fun argv description =>
    keeps_runSnapshotCommand host stage hI description (hruns argv stage.path)
  have hdump : ∀ env, Keeps (At host (some name) (.named databaseName) t)
      (runSnapshotCommand host (.pgDump dumpPath name) "pg_dump" stage env) :=
    fun env => keeps_runSnapshotCommand host stage hI _ (At.step fun _ => .dump rfl)
  have hread := keeps_readStateSnapshot py host hI
  mvcgen [dumpDatabase, fixtureCommand, hask, hprogram, hdump, hread]
  -- The loop removes the files of an earlier run.
  case inv1 =>
    exact post⟨fun _ w => ⌜At host (some name) (.named databaseName) t w⌝,
      fun _ w => ⌜At host (some name) (.named databaseName) t w⌝⟩
  all_goals simp_all

/-- The dump is restored into the temporary database. -/
theorem keeps_restoreDatabase (original : Option String) (env : Env) (dumpPath : String) :
    Keeps (At host original (.snapshot databaseName) t)
      (restoreDatabase py host r stage env databaseName dumpPath) := by
  have hI : Quiet (At host original (.snapshot databaseName) t) := quiet_at
  have hask := hI.ask host
  have hruns : Runs ((env.set "DATABASE_NAME" databaseName).set "PGDATABASE" databaseName)
      (At host original (.snapshot databaseName) t) := by
    apply runs_at
    rw [Dict.get?_set, Dict.get?_set]
    rfl
  have hprogram := fun argv description =>
    keeps_runSnapshotCommand host stage hI description (hruns argv stage.path)
  have hrestore : ∀ env, Keeps (At host original (.snapshot databaseName) t)
      (runSnapshotCommand host (.pgRestore databaseName dumpPath) "pg_restore" stage env) :=
    fun env => keeps_runSnapshotCommand host stage hI _ (At.step fun _ => .restore)
  have hread := keeps_readStateSnapshot py host hI
  mvcgen [restoreDatabase, fixtureCommand, hask, hprogram, hrestore, hread]

/-- The round trip leads to a temporary database. Where it fails, there may be one. -/
theorem roundTrip_spec (henv : env.get? "DATABASE_NAME" = some name) (dumpPath : String) :
    ⦃fun w => ⌜At host (some name) (.named databaseName) t w⌝⦄
    roundTrip py host r stage env name databaseName dumpPath
    ⦃post⟨fun _ w => ⌜At host (some name) (.snapshot databaseName) t w⌝,
      fun _ w => ⌜MayExist host (some name) databaseName t w⌝⟩⦄ := by
  have hdump := keeps_dumpDatabase py host r stage t databaseName henv dumpPath
  have hcreate : ∀ env, ⦃fun w => ⌜At host (some name) (.named databaseName) t w⌝⦄
      runSnapshotCommand host (.createdb databaseName) "createdb" stage env
      ⦃post⟨fun _ w => ⌜At host (some name) (.snapshot databaseName) t w⌝,
        fun _ w => ⌜MayExist host (some name) databaseName t w⌝⟩⦄ :=
    fun env => runSnapshotCommand_spec host stage quiet_at _ (At.step fun _ => .create)
  have hrestore := keeps_restoreDatabase py host r stage t databaseName (some name) env dumpPath
  have hcompare := keeps_compareStates py host r stage
    (quiet_at : Quiet (At host (some name) (.snapshot databaseName) t))
  mvcgen [roundTrip, hdump, hcreate, hrestore, hcompare]
  -- A failure after `createdb` is one with the database, and one before it is one without.
  · exact Or.inr
  · exact Or.inr
  · exact Or.inl

/-- A round trip that is caught has led to a temporary database if it has a fixture. -/
theorem caughtRoundTrip_spec (henv : env.get? "DATABASE_NAME" = some name) (dumpPath : String) :
    ⦃fun w => ⌜At host (some name) (.named databaseName) t w⌝⦄
    caughtRoundTrip py host r stage env name databaseName dumpPath
    ⦃post⟨fun outcome w => ⌜MayExist host (some name) databaseName t w ∧
        ∀ fixture, outcome = .ok fixture → At host (some name) (.snapshot databaseName) t w⌝,
      fun _ w => ⌜MayExist host (some name) databaseName t w⌝⟩⦄ := by
  have hround := roundTrip_spec py host r stage t databaseName henv dumpPath
  have hI : Quiet (MayExist host (some name) databaseName t) := quiet_mayExist
  have hstatus := hI.updated (setSnapshotStatus "failed") fun _ => rfl
  mvcgen [caughtRoundTrip, hround, hstatus]
  · exact ⟨Or.inr ‹_›, fun _ _ => ‹_›⟩
  -- An exception that is caught leaves no fixture.
  all_goals
    refine ⟨‹_›, ?_⟩
    intro fixture hok
    cases hok

/-- The removal of the dump makes no fixture. -/
theorem eq_ok_of_afterRemoval {removed : Bool} {outcome : Except String Json} {fixture : Json}
    (h : afterRemoval removed outcome = .ok fixture) : outcome = .ok fixture := by
  cases outcome with
  | error message => cases h
  | ok found =>
      cases removed with
      | false => cases h
      | true => exact h

/-- The stages to come work with the temporary database. Where the round trip fails, there may be
one that is to be dropped. -/
theorem roundTripUnder_spec {original : Option String} (henv : env.get? "DATABASE_NAME" = original)
    (horiginal : original = some name) :
    ⦃fun w => ⌜At host original (.named databaseName) (original, none, none) w⌝⦄
    roundTripUnder py host r stage env name databaseName
    ⦃post⟨fun _ w => ⌜At host original (.snapshot databaseName)
        (some databaseName, some databaseName, some stage) w⌝,
      fun _ w => ⌜MayExist host original databaseName
        (original, some databaseName, some stage) w⌝⟩⦄ := by
  subst horiginal
  have hI : Quiet (MayExist host (some name) databaseName
      (some name, some databaseName, some stage)) := quiet_mayExist
  have hcaught := caughtRoundTrip_spec py host r stage (some name, some databaseName, some stage)
    databaseName henv
  have hremove := fun path => follows_of_keeps fun I hI => keeps_removeDump host (I := I) hI path
  have hrewrite := keeps_rewriteDiagnostic host hI
  mvcgen [roundTripUnder, update, hcaught, hremove, hrewrite]
  -- From here on the runner keeps track of the database, which there may be.
  case vc1.pre hat _ _ => exact hat.remember databaseName stage
  case vc2.post.success.post.success.h_1.pre houtcome _ _ _ _ hfollows =>
    exact hfollows _ hI houtcome.1
  -- The dump is removed, and there was a fixture: the round trip has passed.
  case vc3.post.success.post.success.h_2 houtcome _ _ hremoved _ hfollows _ =>
    have hat := hfollows _ quiet_at (houtcome.2 _ (eq_ok_of_afterRemoval hremoved))
    exact hat.useDatabase databaseName _
  -- The other exceptions come from the removal, or from the round trip before it.
  case vc4.post.success.post.except.handle houtcome _ _ =>
    exact fun hfollows => hfollows _ hI houtcome.1
  case vc5.post.except.handle.post.success hexists _ _ hfollows => exact hfollows _ hI hexists
  case vc6.post.except.handle.post.except.handle hexists _ _ =>
    exact fun hfollows => hfollows _ hI hexists

/-- The same with the name that the run asks for, which has to be one of a temporary database. -/
theorem runSnapshotRoundTrip_spec {original : Option String}
    (henv : env.get? "DATABASE_NAME" = original) :
    ⦃fun w => ⌜At host original .original (original, none, none) w⌝⦄
    runSnapshotRoundTrip py host r stage env
    ⦃post⟨fun _ w => ⌜∃ name,
        At host original (.snapshot name) (some name, some name, some stage) w⌝,
      fun _ w => ⌜Recoverable host original w⌝⟩⦄ := by
  have hI : Quiet (At host original .original (original, none, none)) := quiet_at
  have hstart := fun f => hI.updated (updateResult f) fun _ => rfl
  -- The machine takes the name as one to be used if it is one of a temporary database.
  have hask : ⦃fun w => ⌜At host original .original (original, none, none) w⌝⦄
      (ask host .newDatabaseName : Run String)
      ⦃post⟨fun name w => ⌜Offered host original name w⌝,
        fun _ w => ⌜At host original .original (original, none, none) w⌝⟩⦄ := by
    refine ask_answer_spec host (fun w name hanswer hat => ?_) (hI.record .newDatabaseName trivial)
    refine ⟨hI.record .newDatabaseName trivial w hat, fun hname => ?_⟩
    exact ⟨hat.1.step (.name hanswer hname), hat.2⟩
  have hvalidate := fun name => validateSnapshotEnvironment_spec env (Offered host original name)
  have hround := fun (name databaseName : String) (horiginal : original = some name) =>
    roundTripUnder_spec py host r stage databaseName henv horiginal
  have hstatus := (quiet_recoverable : Quiet (Recoverable host original)).updated
    (setSnapshotStatus "failed") fun _ => rfl
  mvcgen [runSnapshotRoundTrip, hstart, hask, hvalidate, hround, hstatus]
  case vc7.post.success.post.success.isFalse.post.success.pre hvalid =>
    exact hvalid.1.2 (Bool.eq_true_of_not_eq_false ‹_›)
  case vc8.post.success.post.success.isFalse.post.success.post.success =>
    exact fun hat => ⟨_, hat⟩
  case vc9.post.success.post.success.isFalse.post.success.post.except.handle =>
    exact fun hexists => ⟨_, Or.inr ⟨_, _, hexists⟩⟩
  -- The environment has been checked.
  case vc10 => exact fun _ _ hset => henv.symm.trans hset
  -- Everything else fails before the round trip.
  case vc14.post.success.post.except.handle.pre => exact recoverable_of_original ‹_›
  all_goals exact Offered.recoverable ‹_›

end RoundTrip

/-! ## The stages -/

section Stages

variable (py : Python) (host : Host Op.Answer Exn) (r : MigrationUpgradeRunner) (stage : Stage)
  (original : Option String)

/-- A stage that works with the database of the run may make a temporary one. -/
theorem runStage_original_spec (policy : UpgradePolicy) (sha : String) :
    ⦃fun w => ⌜At host original .original (original, none, none) w⌝⦄
    runStage py host r policy stage sha
    ⦃post⟨fun _ w => ⌜At host original .original (original, none, none) w ∨
        some stage.name = r.snapshotRoundTripAfter ∧ ∃ name,
          At host original (.snapshot name) (some name, some name, some stage) w⌝,
      fun _ w => ⌜Recoverable host original w⌝⟩⦄ := by
  have hI : Quiet (At host original .original (original, none, none)) := quiet_at
  have hopen := fun path => hI.ask host (.openLog path) trivial
  have hruns : ∀ env : Env, env.get? "DATABASE_NAME" = original →
      Runs env (At host original .original (original, none, none)) :=
    fun env henv => runs_at (congrArg some henv.symm)
  have hmigrate := fun env henv => keeps_migrateStage py host r stage hI (hruns env henv)
  have hcollect := fun env henv => keeps_collectInventory py host r stage hI (hruns env henv) sha
  have hcheck := keeps_checkInventory py stage hI policy
  have hverify := fun env henv => keeps_verifyFixtureAfterStage py host r stage hI (hruns env henv)
  have hround := fun (env : Env) (henv : env.get? "DATABASE_NAME" = original) =>
    runSnapshotRoundTrip_spec py host r stage henv
  mvcgen [runStage, getState, hopen, hmigrate, hcollect, hcheck, hverify, hround]
  case vc2.henv => exact get?_stageEnv_of_at ‹_› _ _
  case vc4.henv => exact get?_stageEnv_of_at ‹_› _ _
  -- Only a stage with the name that the arguments give makes a database.
  case vc8.post.success.post.success.post.success.post.success.isTrue.post.success =>
    exact fun hexists => Or.inr ⟨‹_›, hexists⟩
  case vc9 => exact fun _ _ => get?_stageEnv_of_at ‹_› _ _
  case vc10.henv => exact get?_stageEnv_of_at ‹_› _ _
  case vc12.post.success.post.success.post.success.post.success.isFalse.isTrue.post.success =>
    exact Or.inl
  case vc14.post.success.post.success.post.success.post.success.isFalse.isFalse =>
    exact Or.inl ‹_›
  all_goals exact recoverable_of_original

/-- The other stages work with the temporary one. -/
theorem keeps_runStage_snapshot (policy : UpgradePolicy) (sha name : String)
    (h : some stage.name ≠ r.snapshotRoundTripAfter) (tail : Option String × Option Stage) :
    Keeps (At host original (.snapshot name) (some name, tail))
      (runStage py host r policy stage sha) := by
  have hI : Quiet (At host original (.snapshot name) (some name, tail)) := quiet_at
  have hopen := fun path => hI.ask host (.openLog path) trivial
  have hruns : ∀ env : Env, env.get? "DATABASE_NAME" = some name →
      Runs env (At host original (.snapshot name) (some name, tail)) :=
    fun env henv => runs_at (congrArg some henv.symm)
  have hmigrate := fun env henv => keeps_migrateStage py host r stage hI (hruns env henv)
  have hcollect := fun env henv => keeps_collectInventory py host r stage hI (hruns env henv) sha
  have hcheck := keeps_checkInventory py stage hI policy
  have hverify := fun env henv => keeps_verifyFixtureAfterStage py host r stage hI (hruns env henv)
  mvcgen [runStage, getState, hopen, hmigrate, hcollect, hcheck, hverify]
  all_goals exact get?_stageEnv_of_at ‹_› _ _

/-- A stage leaves a database for the stages to come. As their names differ from its own, none of
them makes another one if it has made one. -/
theorem runStage_spec (policy : UpgradePolicy) (sha : String) {later : List Stage}
    (hnodup : ((stage :: later).map Stage.name).Nodup) :
    ⦃fun w => ⌜ReadyFor host original r (stage :: later) w⌝⦄
    runStage py host r policy stage sha
    ⦃post⟨fun _ w => ⌜ReadyFor host original r later w⌝,
      fun _ w => ⌜Recoverable host original w⌝⟩⦄ := by
  obtain ⟨hfresh, -⟩ := List.nodup_cons.mp hnodup
  have hfirst := runStage_original_spec py host r stage original policy sha
  have horiginal : ⦃fun w => ⌜At host original .original (original, none, none) w⌝⦄
      runStage py host r policy stage sha
      ⦃post⟨fun _ w => ⌜ReadyFor host original r later w⌝,
        fun _ w => ⌜Recoverable host original w⌝⟩⦄ := by
    mvcgen [hfirst]
    intro hcases
    rcases hcases with hat | ⟨hafter, name, hat⟩
    · exact Or.inl hat
    · refine Or.inr ⟨name, stage, hat, ?_⟩
      -- A later stage with the name would have the name of this one.
      intro next hnext hsame
      rw [← hafter, Option.some.injEq] at hsame
      exact hfresh (hsame ▸ List.mem_map_of_mem hnext)
  have hsnapshot : ∀ name made,
      (∀ next ∈ stage :: later, some next.name ≠ r.snapshotRoundTripAfter) →
      ⦃fun w => ⌜At host original (.snapshot name) (some name, some name, some made) w⌝⦄
      runStage py host r policy stage sha
      ⦃post⟨fun _ w => ⌜ReadyFor host original r later w⌝,
        fun _ w => ⌜Recoverable host original w⌝⟩⦄ := by
    intro name made hlater
    obtain ⟨hstage, hlater⟩ := List.forall_mem_cons.mp hlater
    have hkeeps := keeps_runStage_snapshot py host r stage original policy sha name hstage
      (some name, some made)
    mvcgen [hkeeps]
    · exact fun hat => Or.inr ⟨name, made, hat, hlater⟩
    · exact fun hat => ⟨_, Or.inr ⟨name, made, Or.inr hat⟩⟩
  -- Which of the two it is depends on the world, so the triples are applied to it.
  intro w hready
  rcases hready with hat | ⟨name, made, hat, hlater⟩
  · exact horiginal w hat
  · exact hsnapshot name made hlater w hat

/-- `_cleanup_snapshot_database` leaves none to be dropped, and raises nothing. -/
theorem cleanupSnapshotDatabase_spec :
    ⦃fun w => ⌜Recoverable host original w⌝⦄ cleanupSnapshotDatabase host r
    ⦃post⟨fun _ w => ⌜Settled host original w⌝, fun _ _ => ⌜False⌝⟩⦄ := by
  mvcgen [cleanupSnapshotDatabase, update, getState, ask]
  -- Nothing is done if the runner keeps track of no database or of no stage.
  case vc4.h_2 hrecoverable _ _ hnone hstage hname =>
    apply settled_of_none hrecoverable
    intro name stage hsome hsome'
    exact hnone name stage (hname.symm.trans hsome) (hstage.symm.trans hsome')
  -- `dropdb` may succeed, fail or raise: it has been run.
  all_goals
    refine settled_of_drop ‹Recoverable host original _› ‹_› ?_
    exact ⟨_, _, rfl⟩

/-- After a failure no temporary database is to be dropped. -/
theorem failStage_spec (message : String) :
    ⦃fun w => ⌜Recoverable host original w⌝⦄ failStage py host r message
    ⦃post⟨fun _ _ => ⌜False⌝, fun _ w => ⌜Settled host original w⌝⟩⦄ := by
  have hcleanup := cleanupSnapshotDatabase_spec host r original
  have hsummary := writeSummaryBestEffort_spec py host r
    (quiet_settled : Quiet (Settled host original))
  mvcgen [failStage, hcleanup, hsummary]

/-- One turn of the loop leaves a database for the stages to come. -/
theorem turn_spec (policy : UpgradePolicy) (later : List Stage)
    (hnodup : ((stage :: later).map Stage.name).Nodup) :
    ⦃fun w => ⌜ReadyFor host original r (stage :: later) w⌝⦄ turn py host r policy stage
    ⦃post⟨fun _ w => ⌜ReadyFor host original r later w⌝,
      fun e w => ⌜Ended host original e w⌝⟩⦄ := by
  have hsha := keeps_stageSha py host stage
    (quiet_readyFor : Quiet (ReadyFor host original r (stage :: later)))
  have hrun := fun sha => runStage_spec py host r stage original policy sha hnodup
  have hfail := failStage_spec py host r original
  have hsummary := follows_of_keeps fun I hI => keeps_writeSummary py host r (I := I) hI
  mvcgen [turn, catchUpgrade, hsha, hrun, hfail, follows_update, hsummary]
  case vc3.post.success.post.success.pre hready _ _ hfollows =>
    exact hfollows _ quiet_readyFor hready
  case vc5.post.success.post.success.post.success.post.success.post.success
      hready _ _ hpassed _ _ =>
    exact fun hsummary => hsummary _ quiet_readyFor (hpassed _ quiet_readyFor hready)
  -- The stage has passed, and the summary could not be written.
  case vc7.post.success.post.success.post.success.post.success.post.except.handle.post.success.pre
      hready _ _ hpassed _ _ _ hsummary _ _ hfailed =>
    have hlater := hsummary _ quiet_readyFor (hpassed _ quiet_readyFor hready)
    exact (hfailed _ quiet_readyFor hlater).recoverable
  -- The stage has failed.
  case vc11.post.success.post.success.post.except.handle.h_1.post.success.pre
      hrecoverable _ _ hfailed =>
    exact hfailed _ quiet_recoverable hrecoverable
  case vc14.post.success.post.success.post.except.handle.h_2 => exact ended_of_other ‹_› ‹_›
  -- There is no commit.
  case vc16.post.except.handle.h_1.post.success.pre hready _ _ hfailed =>
    exact (hfailed _ quiet_readyFor hready).recoverable
  case vc19.post.except.handle.h_2 hready => exact ended_of_other ‹_› hready.recoverable
  all_goals first | exact fun _ => rfl | exact False.elim | exact ended_of_settled

/-! ## The run -/

/-- Without duplicates the names differ. -/
theorem nodup_of_duplicates {names : List String}
    (h : Canonical.sorted id (names.filter fun name => 1 < names.count name).dedup = []) :
    names.Nodup := by
  rw [sorted_eq_nil, List.dedup_eq_nil, List.filter_eq_nil_iff] at h
  rw [List.nodup_iff_count_le_one]
  intro name
  by_cases hmem : name ∈ names
  · simpa using h name hmem
  · rw [List.count_eq_zero_of_not_mem hmem]
    exact Nat.zero_le _

/-- Arguments are accepted only if the names of the stages differ. -/
theorem checkArguments_spec (I : World Op RunnerState → Prop) :
    ⦃fun w => ⌜I w⌝⦄ checkArguments py r
    ⦃post⟨fun _ w => ⌜I w ∧ (r.stages.map Stage.name).Nodup⌝, fun _ w => ⌜I w⌝⟩⦄ := by
  have hvalidate := fun env => validateSnapshotEnvironment_spec env I
  mvcgen [checkArguments, hvalidate, getState]
  case vc3.isFalse.isFalse.h_1 hduplicates _ _ _ =>
    exact ⟨‹_›, nodup_of_duplicates (not_not.mp hduplicates)⟩
  case vc7.isFalse.isFalse.h_2.isFalse.isFalse.post.success
      hduplicates _ _ _ _ _ _ _ _ _ _ hvalid =>
    exact ⟨hvalid.1, nodup_of_duplicates (not_not.mp hduplicates)⟩

/-- A run that ends leaves none to be dropped. -/
theorem run_spec :
    ⦃fun w => ⌜At host original .original (original, none, none) w⌝⦄ run py host r
    ⦃post⟨fun _ w => ⌜Settled host original w⌝, fun e w => ⌜Ended host original e w⌝⟩⦄ := by
  have hI : Quiet (At host original .original (original, none, none)) := quiet_at
  have hcheck := checkArguments_spec py r (At host original .original (original, none, none))
  have hload := keeps_loadPolicy py host r hI
  have hprepare := keeps_prepare host r hI
  have hturn := fun stage => turn_spec py host r stage original
  have hcleanup := cleanupSnapshotDatabase_spec host r original
  have hsummary := keeps_writeSummary py host r (quiet_settled : Quiet (Settled host original))
  mvcgen [run, hcheck, hload, hprepare, hturn, hcleanup, hsummary]
  -- The invariant of the loop is about the stages that are still to come.
  case inv1 =>
    exact post⟨fun p w => ⌜ReadyFor host original r p.1.suffix w⌝,
      fun e w => ⌜Ended host original e w⌝⟩
  case vc2.post.success.pre hat => exact hat.1
  case vc5.hnodup hchecked _ _ _ _ _ _ _ _ _ hstages _ _ _ =>
    -- The names of the stages that are left differ, since those of all stages do.
    have hnodup := hchecked.2
    rw [hstages, List.map_append] at hnodup
    exact (List.nodup_append.mp hnodup).2.1
  case vc6.step.pre => assumption
  case vc7.step.post.success => assumption
  case vc8.step.post.except.handle => exact fun _ hended => hended
  case vc9.post.success.post.success.post.success.pre hat => exact Or.inl hat
  case vc10.post.success.post.success.post.success.post.success.pre hready =>
    exact ReadyFor.recoverable hready
  case vc12.post.success.post.success.post.success.post.success.post.success.post.success =>
    exact id
  case vc13.post.success.post.success.post.success.post.success.post.success.post.except.handle
      hsettled =>
    exact ended_of_settled hsettled
  case vc14.post.success.post.success.post.success.post.except =>
    exact ⟨fun e w hended => hended, trivial⟩
  -- What fails before the first stage fails before there is a database to drop.
  all_goals first
    | exact ended_of_settled (settled_of_original ‹_›)
    | exact fun hat => ended_of_settled (settled_of_original hat)

end Stages

/-- Whatever commands and files answer, a run follows the machine for the database that it is
started for. When it returns or raises a `MigrationUpgradeError`, `dropdb` has been run for whatever
it has created. -/
theorem run_follows (py : Python) (host : Host Op.Answer Exn) (r : MigrationUpgradeRunner)
    (env : Env) :
    ∃ p, Path (DatabaseStep host (env.get? "DATABASE_NAME")) .original
        (exec (run py host r) ⟨[], { baseEnv := env }⟩).2.trace p ∧
      ((exec (run py host r) ⟨[], { baseEnv := env }⟩).1 = .ok () ∨
          (∃ message, (exec (run py host r) ⟨[], { baseEnv := env }⟩).1 =
            .error (.upgrade message)) →
        (∀ name, p ≠ .snapshot name) ∧
        ∀ before after name cwd env', (exec (run py host r) ⟨[], { baseEnv := env }⟩).2.trace =
            before ++ .runCommand (.createdb name) cwd env' :: after →
          ∃ cwd env', .runCommand (.dropdb name) cwd env' ∈ after) := by
  have hstart : At host (env.get? "DATABASE_NAME") .original (env.get? "DATABASE_NAME", none, none)
      ⟨[], { baseEnv := env }⟩ := ⟨.start, rfl⟩
  obtain ⟨hok, herror⟩ := of_triple (run_spec py host r _) hstart
  -- In any phase but that of the temporary database, it has been dropped if there was one.
  have hdropped : ∀ {p : Phase}, (∀ name, p ≠ .snapshot name) →
      Path (DatabaseStep host (env.get? "DATABASE_NAME")) .original
        (exec (run py host r) ⟨[], { baseEnv := env }⟩).2.trace p →
      ∀ before after name cwd env', (exec (run py host r) ⟨[], { baseEnv := env }⟩).2.trace =
          before ++ .runCommand (.createdb name) cwd env' :: after →
        ∃ cwd env', .runCommand (.dropdb name) cwd env' ∈ after :=
    fun hp hpath _ _ name _ _ htrace => (dropdb_mem_of_path hpath htrace).resolve_left (hp name)
  cases hresult : (exec (run py host r) ⟨[], { baseEnv := env }⟩).1 with
  | ok value =>
      obtain ⟨p, t, hp, hat⟩ := hok _ hresult
      exact ⟨p, hat.1, fun _ => ⟨hp, hdropped hp hat.1⟩⟩
  | error e =>
      obtain ⟨⟨p, hpath⟩, hsettled⟩ := herror _ hresult
      by_cases hupgrade : ∃ message, e = .upgrade message
      · obtain ⟨message, he⟩ := hupgrade
        obtain ⟨p, t, hp, hat⟩ := hsettled message he
        exact ⟨p, hat.1, fun _ => ⟨hp, hdropped hp hat.1⟩⟩
      -- Nothing more is claimed of an exception that the runner does not catch.
      · refine ⟨p, hpath, ?_⟩
        rintro (hok | ⟨message, he⟩)
        · cases hok
        · exact absurd ⟨message, Except.error.inj he⟩ hupgrade

end AapGateway.Tools
