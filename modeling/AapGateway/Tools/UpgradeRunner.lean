import AapGateway.Foundations.Effects
import AapGateway.Foundations.Replace
import AapGateway.Tools.InventoryFormat

/-!
# The upgrade runner

`MigrationUpgradeRunner` installs one checkout after the other in an environment of its own,
migrates the same database with each of them and checks the inventory of each stage. After one of
the stages the database may be dumped and restored under a temporary name, which the later stages go
on with. The temporary database is dropped in the end.

The runner asks for everything it does to the outside: commands, files, the name of the temporary
database. What it prints is left out, and so is the closing of the log.

## Main definitions

* `Op` and `Exn`: what the runner asks for, and what it raises or catches;
* `RunnerState`: the attributes that change;
* `run`: a run, with the stages in `runStage` and `runSnapshotRoundTrip`.
-/

namespace AapGateway.Tools

open Effects

/-- Environment variables. -/
abbrev Env : Type := Dict String

/-- `Stage`. -/
structure Stage where
  name : String
  path : String
  isStageName_name : isStageName name = true

/-! ## Operations -/

/-- A command line. -/
inductive Command where
  /-- A program of a stage: Python, a script or a helper. -/
  | program (argv : List String)
  | pgDump (file dbname : String)
  | createdb (name : String)
  | pgRestore (dbname file : String)
  | dropdb (name : String)

/-- The words of a command line. -/
def Command.argv : Command → List String
  | .program argv => argv
  | .pgDump file dbname =>
    ["pg_dump", "--format=custom", "--no-owner", "--no-privileges", "--file", file, "--dbname",
      dbname]
  | .createdb name => ["createdb", "--maintenance-db=postgres", "--template=template0", name]
  | .pgRestore dbname file =>
    ["pg_restore", "--exit-on-error", "--no-owner", "--no-privileges", "--dbname", dbname, file]
  | .dropdb name => ["dropdb", "--if-exists", "--maintenance-db=postgres", name]

/-- `subprocess.CompletedProcess`. -/
structure CommandResult where
  returncode : ℤ
  stdout : Option String
  stderr : Option String

/-- What the runner asks for. -/
inductive Op where
  | isDir (path : String)
  | exists (path : String)
  | isFile (path : String)
  /-- `git rev-parse --verify HEAD`. -/
  | gitSha (path : String)
  /-- `json.loads(path.read_text(encoding="utf-8"))`. -/
  | loadJson (path : String)
  | mkdir (path : String)
  | copyFile (source destination : String)
  | makeExecutable (path : String)
  | openLog (path : String)
  | writeLog (text : String)
  | flushLog
  | unlink (path : String)
  | runCommand (command : Command) (cwd : String) (env : Env)
  /-- `snapshot_database_name_factory()`. -/
  | newDatabaseName
  | sha256File (path : String)
  /-- `_write_json_atomically`. -/
  | writeJson (path : String) (payload : Json)
  | writeText (path text : String)

/-- The answers. -/
abbrev Op.Answer : Op → Type
  | .isDir _ => Bool
  | .exists _ => Bool
  | .isFile _ => Bool
  | .gitSha _ => String
  | .loadJson _ => Json
  | .runCommand _ _ _ => CommandResult
  | .newDatabaseName => String
  | .sha256File _ => String
  | _ => Unit

/-- The exceptions, with their texts. -/
inductive Exn where
  /-- `MigrationUpgradeError`. -/
  | upgrade (message : String)
  /-- `MigrationInventoryError`. -/
  | inventory (message : String)
  /-- `OSError`. -/
  | os (message : String)
  | calledProcess (message : String)
  | timeoutExpired (message : String)
  | jsonDecode (message : String)
  | other (message : String)

/-- `str(exc)`. -/
def Exn.text : Exn → String
  | .upgrade message => message
  | .inventory message => message
  | .os message => message
  | .calledProcess message => message
  | .timeoutExpired message => message
  | .jsonDecode message => message
  | .other message => message

/-! ## State -/

/-- `StageResult.status`. -/
inductive StageStatus where
  | pending
  | passed
  | failed
  deriving DecidableEq, Repr

/-- The text of a status. -/
def StageStatus.value : StageStatus → String
  | .pending => "pending"
  | .passed => "passed"
  | .failed => "failed"

/-- `StageResult`. -/
structure StageResult where
  name : String
  path : String
  sha : String
  logPath : String
  status : StageStatus := .pending
  error : Option String := none
  inventoryPath : Option String := none
  inventory : Option CollectedInventory := none
  policyExceptions : List String := []
  snapshotDiagnosticPath : Option String := none
  snapshotResult : Option (Dict Json) := none
  fixtureSnapshotPath : Option String := none

/-- The attributes of the runner that change. -/
structure RunnerState where
  baseEnv : Env
  results : List StageResult := []
  inventories : List Inventory := []
  snapshotDatabaseName : Option String := none
  snapshotStage : Option Stage := none
  expectedFixtureSnapshot : Option Json := none
  snapshotCleanupWarning : Option String := none

/-- The attributes that do not change. -/
structure MigrationUpgradeRunner where
  stages : List Stage
  outputDir : String
  venvRoot : String
  pythonExecutable : String
  policyPath : String
  snapshotRoundTripAfter : Option String
  /-- `Path(__file__).parent / "ci"`. -/
  helperRoot : String

/-- A part of a run. -/
abbrev Run (α : Type) : Type := Program Op Exn RunnerState α

/-- A change of the result of the stage that runs. -/
def updateResult (f : StageResult → StageResult) (s : RunnerState) : RunnerState :=
  { s with results := s.results.modifyLast f }

/-! ## Environment variables -/

/-- `SNAPSHOT_DATABASE_PATTERN`. -/
def isSnapshotDatabase (name : String) : Bool :=
  Text.startsWith name "gw_migration_snapshot_" &&
    ((name.toList.drop "gw_migration_snapshot_".length).all isLowerHex &&
      decide (name.toList.length = "gw_migration_snapshot_".length + 16))

/-- `DATABASE_NAME_PATTERN`. -/
def isDatabaseName : String → Bool :=
  isWord isNameChar (fun c => isNameChar c || c ∈ ['.', '-']) 0 62

/-- The connection settings that libpq has variables for. -/
def connectionVariables : List (String × String) :=
  [("DATABASE_USER", "PGUSER"), ("DATABASE_PASSWORD", "PGPASSWORD"), ("DATABASE_HOST", "PGHOST"),
    ("DATABASE_PORT", "PGPORT")]

/-- The variables without those of libpq. -/
def withoutLibpq (env : Env) : Env :=
  env.without ((env.items.map Prod.fst).filter (Text.startsWith · "PG"))

/-- Variables that are copied where they are set. -/
def copyVariables (pairs : List (String × String)) (env : Env) : Env :=
  pairs.foldl (fun env pair =>
    match env.get? pair.1 with
    | some v => env.set pair.2 v
    | none => env) env

/-- `_stage_env`. -/
def stageEnv (baseEnv : Env) (stage : Stage) (venvDir : String) : Env :=
  let env := copyVariables (connectionVariables ++ [("DATABASE_NAME", "PGDATABASE")])
    (withoutLibpq baseEnv)
  let env := env.set "PATH" (venvDir ++ "/bin" ++ ":" ++ (env.get? "PATH").getD "")
  let pythonPath := [stage.path, (env.get? "PYTHONPATH").getD ""].filter (· ≠ "")
  let env := env.set "PYTHONPATH" (":".intercalate pythonPath)
  env.setDefault "DJANGO_SETTINGS_MODULE" "aap_gateway_api.settings"

/-- `_postgres_env`. -/
def postgresEnv (env : Env) : Env :=
  (copyVariables connectionVariables (withoutLibpq env)).set "PGDATABASE" "postgres"

/-- `_validate_snapshot_environment`. -/
def validateSnapshotEnvironment (env : Env) : Run String := do
  let databaseName := (env.get? "DATABASE_NAME").getD ""
  if isDatabaseName databaseName = false then
    throw (.upgrade "Snapshot round-trip requires a simple DATABASE_NAME identifier")
  if Text.startsWith ((env.get? "DATABASE_ENGINE").getD "")
      "django.db.backends.postgresql" = false then
    throw (.upgrade "Snapshot round-trip requires a PostgreSQL database engine")
  let host := (env.get? "DATABASE_HOST").getD ((env.get? "PGHOST").getD "")
  if host ∉ ["", "localhost", "127.0.0.1", "::1"] then
    throw (.upgrade "Snapshot round-trip is restricted to a local PostgreSQL database")
  return databaseName

/-! ## Shell words -/

/-- `shlex.quote`. -/
def shlexQuote (s : String) : String :=
  if s = "" then "''"
  else if s.toList.all (fun c => isNameChar c || c ∈ ['@', '%', '+', '=', ':', ',', '.', '/', '-'])
    then s
  else "'" ++ Text.replace s "'" "'\"'\"'" ++ "'"

/-- `shlex.join`. -/
def shlexJoin (argv : List String) : String :=
  " ".intercalate (argv.map shlexQuote)

/-! ## The run -/

section Runner

variable (py : Python) (host : Host Op.Answer Exn) (r : MigrationUpgradeRunner)

namespace MigrationUpgradeRunner

/-- The virtual environment of a stage. -/
def venvDir (stage : Stage) : String := r.venvRoot ++ "/" ++ stage.name

/-- The interpreter of a stage. -/
def venvPython (stage : Stage) : String := r.venvDir stage ++ "/bin/python"

/-- `inventory_helper_path`. -/
def inventoryHelperPath : String := r.venvRoot ++ "/_helpers/migration_inventory.py"

/-- `snapshot_fixture_helper_path`. -/
def snapshotFixtureHelperPath : String :=
  r.venvRoot ++ "/_helpers/migration_snapshot_fixture.py"

/-- A file of the output directory. -/
def outputPath (name : String) : String := r.outputDir ++ "/" ++ name

end MigrationUpgradeRunner

open MigrationUpgradeRunner

/-- The start of a message about a stage. -/
def stagePrefix (stage : Stage) : String := "Stage " ++ repr py stage.name

/-- `_execute`. -/
def execute (command : Command) (stage : Stage) (env : Env) : Run CommandResult := do
  let commandText := shlexJoin command.argv
  ask host (.writeLog ("$ " ++ commandText ++ "\n"))
  let completed ←
    try ask host (.runCommand command stage.path env)
    catch e =>
      match e with
      | .timeoutExpired _ =>
        throw (.upgrade (stagePrefix py stage ++ " command timed out: " ++ commandText))
      | .os _ =>
        throw (.upgrade (stagePrefix py stage ++ " command could not be started: " ++ commandText))
      | e => throw e
  let output := completed.stdout.getD "" ++ completed.stderr.getD ""
  if output ≠ "" then ask host (.writeLog output)
  ask host .flushLog
  if completed.returncode ≠ 0 then
    throw (.upgrade (stagePrefix py stage ++ " command failed with exit code " ++
      toString completed.returncode ++ ": " ++ commandText))
  return completed

/-- `_stage_sha`. -/
def stageSha (stage : Stage) : Run String := do
  if (← ask host (.isDir stage.path)) = false then
    throw (.upgrade (stagePrefix py stage ++ " checkout does not exist: " ++ stage.path))
  try ask host (.gitSha stage.path)
  catch e =>
    let notGit := Exn.upgrade (stagePrefix py stage ++ " is not a git checkout: " ++ stage.path)
    match e with
    | .os _ => throw notGit
    | .calledProcess _ => throw notGit
    | .timeoutExpired _ => throw notGit
    | e => throw e

/-- `load_policy`, with the errors of the file. -/
def loadPolicy : Run UpgradePolicy := do
  let payload ← do
    if (← ask host (.isFile r.policyPath)) = false then
      throw (.inventory ("Migration policy does not exist: " ++ r.policyPath))
    try ask host (.loadJson r.policyPath)
    catch e =>
      let unreadable := Exn.inventory
        ("Unable to read migration policy " ++ r.policyPath ++ ": " ++ e.text)
      match e with
      | .os _ => throw unreadable
      | .jsonDecode _ => throw unreadable
      | e => throw e
  match policyOfJson py payload with
  | .ok policy => return policy
  | .error message => throw (.inventory message)

/-- `STAGE_VENV_HELPERS`. -/
def stageVenvHelpers : List String :=
  ["install_django_venv.sh", "tox-reinstall-django-ansible-base.sh"]

/-- `_copy_stage_venv_helpers`. -/
def copyStageVenvHelpers (stage : Stage) : Run String := do
  let missing := stagePrefix py stage ++ " is missing tools/scripts/ci/install_django_venv.sh and "
  let destinationDir := stage.path ++ "/tools/scripts/ci"
  try
    ask host (.mkdir destinationDir)
    for helper in stageVenvHelpers do
      let source := r.helperRoot ++ "/" ++ helper
      if (← ask host (.isFile source)) = false then
        throw (.upgrade (missing ++ "the runner cannot provide a fallback copy of " ++
          repr py helper))
      ask host (.copyFile source (destinationDir ++ "/" ++ helper))
      ask host (.makeExecutable (destinationDir ++ "/" ++ helper))
  catch e =>
    match e with
    | .os _ => throw (.upgrade (missing ++ "the fallback copy into the stage checkout failed"))
    | e => throw e
  return destinationDir ++ "/install_django_venv.sh"

/-- `_run_snapshot_command`. -/
def runSnapshotCommand (command : Command) (description : String) (stage : Stage) (env : Env) :
    Run Unit := do
  ask host (.writeLog ("[snapshot] " ++ description ++ "\n"))
  ask host .flushLog
  let completed ←
    try ask host (.runCommand command stage.path env)
    catch e =>
      let incomplete := Exn.upgrade ("Snapshot " ++ description ++ " could not be completed")
      match e with
      | .os _ => throw incomplete
      | .timeoutExpired _ => throw incomplete
      | e => throw e
  if completed.returncode ≠ 0 then
    throw (.upgrade ("Snapshot " ++ description ++ " failed with exit code " ++
      toString completed.returncode))

/-! ### The fixture -/

/-- A number of rows: an integer that is not negative. -/
def isCount : Json → Bool
  | .num n => n.literal.all Char.isDigit || n.literal = ['-', '0']
  | _ => false

/-- `[A-Za-z0-9-]+`. -/
def isFixtureId (s : String) : Bool :=
  s ≠ "" && s.toList.all fun c => c.isAlphanum || c = '-'

/-- A record of the fixture. -/
def isFixtureRecord (keys : List String) (name : String) (d : Dict Json) : Bool :=
  HasKeys d keys && (match field d "id" with | .str id => isFixtureId id | _ => false) &&
    isText name (field d "name")

/-- The identity of the fixture. -/
def isFixtureIdentity (fixture : Json) : Bool :=
  match fixture.asDict? with
  | none => false
  | some fixture =>
    HasKeys fixture ["organization", "team"] &&
      match (field fixture "organization").asDict?, (field fixture "team").asDict? with
      | some organization, some team =>
        isFixtureRecord ["id", "name"] "Migration CI Snapshot Organization" organization &&
          isFixtureRecord ["id", "name", "organization_id"] "Migration CI Snapshot Team" team &&
          py.eqv true (field team "organization_id") (field organization "id")
      | _, _ => false

/-- The table counts of a state. -/
def areTableCounts (tableCounts : Json) : Bool :=
  match tableCounts.asDict? with
  | none => false
  | some counts => counts.items.all fun item =>
    item.1 ≠ "" && item.1.toList.all isNameChar && isCount item.2

/-- The applied migrations of a state. -/
def areMigrationKeys : Json → Bool
  | .arr vs => vs.all fun v => match v with | .str s => isMigrationKey s | _ => false
  | _ => false

/-- `_read_state_snapshot`. -/
def readStateSnapshot (path : String) : Run (Dict Json) := do
  let payload ←
    try ask host (.loadJson path)
    catch e =>
      let invalid := Exn.upgrade "Snapshot helper did not write valid state JSON"
      match e with
      | .os _ => throw invalid
      | .jsonDecode _ => throw invalid
      | e => throw e
  match payload.asDict? with
  | none => throw (.upgrade "Snapshot helper wrote an invalid state shape")
  | some state =>
    if ¬HasKeys state ["table_counts", "applied_migrations", "fixture"] then
      throw (.upgrade "Snapshot helper wrote an invalid state shape")
    if areTableCounts (field state "table_counts") = false then
      throw (.upgrade "Snapshot helper wrote invalid table counts")
    if areMigrationKeys (field state "applied_migrations") = false then
      throw (.upgrade "Snapshot helper wrote invalid applied migration keys")
    if isFixtureIdentity py (field state "fixture") = false then
      throw (.upgrade "Snapshot helper wrote an invalid fixture identity")
    return state

/-- `_verify_fixture_after_stage`. -/
def verifyFixtureAfterStage (stage : Stage) (env : Env) : Run Unit := do
  let fixturePath := r.outputPath (stage.name ++ ".snapshot.json")
  update (updateResult fun result => { result with fixtureSnapshotPath := some fixturePath })
  ask host (.unlink fixturePath)
  runSnapshotCommand host
    (.program [r.venvPython stage, r.snapshotFixtureHelperPath, "snapshot", "--output",
      fixturePath]) "verify fixed fixture identity" stage env
  let fixture ←
    try ask host (.loadJson fixturePath)
    catch e =>
      let invalid := Exn.upgrade
        (stagePrefix py stage ++ " snapshot helper did not write valid fixture JSON")
      match e with
      | .os _ => throw invalid
      | .jsonDecode _ => throw invalid
      | e => throw e
  let expected := (← getState).expectedFixtureSnapshot
  if (expected.any fun expected => py.eqv true fixture expected) = false then
    throw (.upgrade (stagePrefix py stage ++ " changed the fixed snapshot fixture identity"))

/-! ### The snapshot -/

/-- The status of the snapshot result of the stage that runs. -/
def setSnapshotStatus (status : String) : RunnerState → RunnerState :=
  updateResult fun result =>
    { result with snapshotResult := result.snapshotResult.map (·.set "status" (.str status)) }

/-- A command of the fixture helper. -/
def fixtureCommand (stage : Stage) (words : List String) : Command :=
  .program ([r.venvPython stage, r.snapshotFixtureHelperPath] ++ words)

/-- The first part of the round trip: the state of the database, and the digest of its dump. -/
def dumpDatabase (stage : Stage) (env : Env) (originalDatabase dumpPath : String) :
    Run (Dict Json × String) := do
  let sourceStatePath := r.outputPath "snapshot-source.json"
  for stalePath in [dumpPath, sourceStatePath, r.outputPath "snapshot-restored.json",
      r.outputPath "snapshot-round-trip.json"] do
    ask host (.unlink stalePath)
  runSnapshotCommand host (fixtureCommand r stage ["seed"]) "seed synthetic fixture" stage env
  runSnapshotCommand host (fixtureCommand r stage ["state", "--output", sourceStatePath])
    "capture source state" stage env
  let sourceState ← readStateSnapshot py host sourceStatePath
  runSnapshotCommand host (.pgDump dumpPath originalDatabase) "pg_dump" stage (postgresEnv env)
  if (← ask host (.isFile dumpPath)) = false then
    throw (.upgrade "Snapshot pg_dump did not create a dump")
  let dumpSha256 ← ask host (.sha256File dumpPath)
  return (sourceState, dumpSha256)

/-- The last part of the round trip: the state of the restored database. -/
def restoreDatabase (stage : Stage) (env : Env) (databaseName dumpPath : String) :
    Run (Dict Json) := do
  let restoredStatePath := r.outputPath "snapshot-restored.json"
  runSnapshotCommand host (.pgRestore databaseName dumpPath) "pg_restore" stage (postgresEnv env)
  let restoredEnv := (env.set "DATABASE_NAME" databaseName).set "PGDATABASE" databaseName
  runSnapshotCommand host (fixtureCommand r stage ["state", "--output", restoredStatePath])
    "capture restored state" stage restoredEnv
  readStateSnapshot py host restoredStatePath

/-- The comparison of the two states. The diagnostics are written in any case. -/
def compareStates (stage : Stage) (dumpSha256 : String) (sourceState restoredState : Dict Json) :
    Run Unit := do
  let status :=
    if py.eqv true (.obj sourceState.items) (.obj restoredState.items) = true then "passed"
    else "failed"
  let diagnostic := Dict.ofList [("stage", .str stage.name), ("status", .str status),
    ("dump_sha256", .str dumpSha256), ("source", .obj sourceState.items),
    ("restored", .obj restoredState.items)]
  ask host (.writeJson (r.outputPath "snapshot-round-trip.json") (.obj diagnostic.items))
  update (updateResult fun result => { result with snapshotResult := some diagnostic })
  if status ≠ "passed" then
    throw (.upgrade
      "Snapshot restore changed table counts, applied migrations, or fixture identity")

/-- The commands of the round trip, up to the identity of the fixture. -/
def roundTrip (stage : Stage) (env : Env) (originalDatabase databaseName dumpPath : String) :
    Run Json := do
  let (sourceState, dumpSha256) ← dumpDatabase py host r stage env originalDatabase dumpPath
  runSnapshotCommand host (.createdb databaseName) "createdb" stage (postgresEnv env)
  let restoredState ← restoreDatabase py host r stage env databaseName dumpPath
  compareStates py host r stage dumpSha256 sourceState restoredState
  return field sourceState "fixture"

/-- What a round trip that is caught ends with: the fixture, or the message of its error. -/
def caughtRoundTrip (stage : Stage) (env : Env)
    (originalDatabase databaseName dumpPath : String) : Run (Except String Json) := do
  try
    let fixture ← roundTrip py host r stage env originalDatabase databaseName dumpPath
    pure (.ok fixture)
  catch e =>
    let sanitized := "Snapshot round-trip failed while handling sanitized diagnostics"
    match e with
    | .upgrade message =>
      update (setSnapshotStatus "failed")
      pure (.error message)
    | .os _ =>
      update (setSnapshotStatus "failed")
      pure (.error sanitized)
    | .jsonDecode _ =>
      update (setSnapshotStatus "failed")
      pure (.error sanitized)
    | .timeoutExpired _ =>
      update (setSnapshotStatus "failed")
      pure (.error sanitized)
    | e => throw e

/-- The temporary dump is removed. The answer tells whether it could be. -/
def removeDump (dumpPath : String) : Run Bool := do
  try
    ask host (.unlink dumpPath)
    pure true
  catch e =>
    match e with
    | .os _ =>
      update fun s =>
        { s with snapshotCleanupWarning := some "Unable to remove the temporary snapshot dump" }
      pure false
    | e => throw e

/-- A dump that could not be removed is an error, unless there is one already. -/
def afterRemoval (removed : Bool) : Except String Json → Except String Json
  | .ok fixture =>
    if removed = true then .ok fixture
    else .error "Unable to remove the temporary snapshot dump"
  | .error message => .error message

/-- The snapshot result of the stage that runs. -/
def RunnerState.snapshotResult (s : RunnerState) : Option (Dict Json) :=
  s.results.getLast?.bind StageResult.snapshotResult

/-- Diagnostics that have been written before the round trip failed are written again. -/
def rewriteDiagnostic (diagnosticPath : String) : Run Unit := do
  if ((← getState).snapshotResult.any fun d => !isText "failed" (field d "status")) = true then
    update (setSnapshotStatus "failed")
    let diagnostic := (← getState).snapshotResult.getD Dict.empty
    try ask host (.writeJson diagnosticPath (.obj diagnostic.items))
    catch e =>
      match e with
      | .os _ => pure ()
      | e => throw e

/-- The round trip under a name. From its start the temporary database is one to be dropped, and the
later stages work with it once the round trip has succeeded. -/
def roundTripUnder (stage : Stage) (env : Env) (originalDatabase databaseName : String) :
    Run Unit := do
  update fun s =>
    { s with snapshotDatabaseName := some databaseName, snapshotStage := some stage }
  let dumpPath := r.venvRoot ++ "/" ++ databaseName ++ ".dump"
  let outcome ←
    try caughtRoundTrip py host r stage env originalDatabase databaseName dumpPath
    catch e =>
      -- An exception that is not caught passes through the `finally` clause.
      let _ ← removeDump host dumpPath
      throw e
  let removed ← removeDump host dumpPath
  match afterRemoval removed outcome with
  | .error message =>
    rewriteDiagnostic host (r.outputPath "snapshot-round-trip.json")
    throw (.upgrade message)
  | .ok fixture =>
    update fun s =>
      { s with
        expectedFixtureSnapshot := some fixture
        baseEnv := s.baseEnv.set "DATABASE_NAME" databaseName }

/-- `_run_snapshot_round_trip`. -/
def runSnapshotRoundTrip (stage : Stage) (env : Env) : Run Unit := do
  update (updateResult fun result => { result with
    snapshotDiagnosticPath := some (r.outputPath "snapshot-round-trip.json")
    snapshotResult := some (Dict.ofList [("status", .str "running")]) })
  let databaseName ←
    try ask host .newDatabaseName
    catch _ =>
      update (setSnapshotStatus "failed")
      throw (.upgrade "Unable to generate a snapshot database name")
  if isSnapshotDatabase databaseName = false then
    update (setSnapshotStatus "failed")
    throw (.upgrade "Generated snapshot database name is invalid")
  let originalDatabase ←
    try validateSnapshotEnvironment env
    catch e =>
      match e with
      | .upgrade message =>
        update (setSnapshotStatus "failed")
        throw (.upgrade message)
      | e => throw e
  roundTripUnder py host r stage env originalDatabase databaseName

/-- `_cleanup_snapshot_database`. -/
def cleanupSnapshotDatabase : Run Unit := do
  let s ← getState
  match s.snapshotDatabaseName, s.snapshotStage with
  | some databaseName, some stage =>
    -- The name is forgotten first: a second call drops nothing.
    update fun s => { s with snapshotDatabaseName := none }
    let warn : Run Unit := update fun s =>
      { s with snapshotCleanupWarning := some "Unable to remove the temporary snapshot database" }
    let env := postgresEnv (stageEnv s.baseEnv stage (r.venvDir stage))
    try
      let result ← ask host (.runCommand (.dropdb databaseName) stage.path env)
      if result.returncode ≠ 0 then warn
    catch _ => warn
  | _, _ => return ()

/-! ### A stage -/

/-- `MIGRATION_SNAPSHOT`. -/
def migrationSnapshot : String :=
  "from django.db import connection\n" ++
  "with connection.cursor() as cursor:\n" ++
  "    cursor.execute(\"SELECT app, name FROM django_migrations ORDER BY app, name\")\n" ++
  "    for app, name in cursor.fetchall():\n" ++
  "        print(f\"\x7bapp\x7d.\x7bname\x7d\")\n"

/-- `InventoryViolation.message`. -/
def InventoryViolation.message (violation : InventoryViolation) : String :=
  match violation.kind with
  | .missing => "stage " ++ violation.stage ++ " is missing applied migration " ++
      violation.migration ++ " first observed in " ++ violation.firstStage
  | .fingerprint => "stage " ++ violation.stage ++ " changed applied migration " ++
      violation.migration ++ " first observed in " ++ violation.firstStage ++ ": " ++
      Text.ofOption violation.firstFingerprint ++ " -> " ++
      Text.ofOption violation.currentFingerprint

/-- The commands of a stage up to its inventory. -/
def migrateStage (stage : Stage) (env : Env) : Run Unit := do
  let run (argv : List String) : Run CommandResult := execute py host (.program argv) stage env
  let _ ← run [r.pythonExecutable, "-m", "venv", r.venvDir stage]
  let script := stage.path ++ "/tools/scripts/ci/install_django_venv.sh"
  let installScript ←
    if (← ask host (.exists script)) = true then pure script
    else copyStageVenvHelpers py host r stage
  let _ ← run [installScript, r.venvDir stage]
  if r.snapshotRoundTripAfter ≠ none then
    let _ ← run [r.venvPython stage, r.snapshotFixtureHelperPath, "validate-connection"]
  let manage (words : List String) : Run CommandResult :=
    run ([r.venvPython stage, "-m", "aap_gateway_api"] ++ words)
  let _ ← manage ["migrate", "--noinput"]
  let _ ← manage ["migrate", "--check"]
  let _ ← manage ["showmigrations", "--plan"]
  let _ ← manage ["shell", "-c", migrationSnapshot]
  let secondMigrate ← manage ["migrate", "--noinput"]
  let output := secondMigrate.stdout.getD "" ++ "\n" ++ secondMigrate.stderr.getD ""
  if Text.contains output "No migrations to apply." = false then
    throw (.upgrade (stagePrefix py stage ++ " second migrate was not a no-op; expected " ++
      repr py "No migrations to apply."))

/-- The inventory of a stage, collected and validated. -/
def collectInventory (stage : Stage) (sha : String) (env : Env) :
    Run (CollectedInventory × Dict Json) := do
  let inventoryPath := r.outputPath (stage.name ++ ".inventory.json")
  update (updateResult fun result => { result with inventoryPath := some inventoryPath })
  ask host (.unlink inventoryPath)
  let _ ← execute py host (.program [r.venvPython stage, r.inventoryHelperPath, "--stage",
    stage.name, "--checkout-sha", sha, "--output", inventoryPath]) stage env
  if (← ask host (.isFile inventoryPath)) = false then
    throw (.upgrade (stagePrefix py stage ++ " inventory collector did not produce inventory: " ++
      inventoryPath))
  let invalid (text : String) : Exn :=
    .upgrade (stagePrefix py stage ++ " produced invalid inventory JSON: " ++ text)
  let inventory ←
    try ask host (.loadJson inventoryPath)
    catch e =>
      match e with
      | .os text => throw (invalid text)
      | .jsonDecode text => throw (invalid text)
      | e => throw e
  match validateInventory py stage.name sha inventory with
  | .error message => throw (invalid message)
  | .ok accepted => return (accepted, inventory.asDict?.getD Dict.empty)

/-- What the history check reads of the inventory of a stage, which has the name of the stage. -/
def CollectedInventory.observed (inventory : CollectedInventory) (stage : Stage) : Inventory where
  stage := stage.name
  available := inventory.available.mapValues Subtype.val
  applied := inventory.applied
  isStageName_stage := stage.isStageName_name

/-- The checks of the inventory of a stage against the policy. -/
def checkInventory (policy : UpgradePolicy) (stage : Stage) (inventory : CollectedInventory)
    (document : Dict Json) : Run Unit := do
  update (updateResult fun result => { result with inventory := some inventory })
  update fun s => { s with inventories := s.inventories ++ [inventory.observed stage] }
  match validateVcsProvenance document policy with
  | .error message => throw (.inventory message)
  | .ok violations =>
    if violations ≠ [] then
      let details := "; ".intercalate (violations.map (VcsProvenanceViolation.message py))
      throw (.upgrade
        (stagePrefix py stage ++ " has unsafe VCS dependency provenance: " ++ details))
  let inventories := (← getState).inventories
  let policyExceptions := (findPolicyExceptions policy.toMigrationPolicy inventories).filter
    (Text.startsWith · (stage.name ++ ":"))
  update (updateResult fun result => { result with policyExceptions := policyExceptions })
  let violations := currentViolations policy.toMigrationPolicy inventories stage.name
  if violations ≠ [] then
    let details := "; ".intercalate (violations.map InventoryViolation.message)
    throw (.upgrade ("Migration inventory policy violation: " ++ details))

/-- `_run_stage`. -/
def runStage (policy : UpgradePolicy) (stage : Stage) (sha : String) : Run Unit := do
  let env := stageEnv (← getState).baseEnv stage (r.venvDir stage)
  ask host (.openLog (r.outputPath (stage.name ++ ".log")))
  migrateStage py host r stage env
  let (inventory, document) ← collectInventory py host r stage sha env
  checkInventory py policy stage inventory document
  if some stage.name = r.snapshotRoundTripAfter then runSnapshotRoundTrip py host r stage env
  else if (← getState).expectedFixtureSnapshot.isSome = true then
    verifyFixtureAfterStage py host r stage env

/-! ### The summary -/

/-- The line of a dependency. -/
def dependencyLine (dependency : VcsDependency) : String :=
  let requestedRevision := (dependency.requestedRevision.map Subtype.val).getD "unspecified"
  let requestedRevision :=
    if dependency.editable = true then requestedRevision ++ " (editable)" else requestedRevision
  "  - `" ++ dependency.distribution.val ++ "` requested `" ++ requestedRevision ++
    "`, resolved `" ++ dependency.commitId.val ++ "`"

/-- The lines of an inventory. -/
def inventoryLines (inventory : CollectedInventory) : List String :=
  ["- Available migrations: `" ++ toString inventory.available.items.length ++ "`",
    "- Applied migrations: `" ++ toString inventory.applied.length ++ "`",
    "- VCS dependencies: `" ++ toString inventory.vcsDependencies.length ++ "`"] ++
    inventory.vcsDependencies.map dependencyLine

/-- The lines of a snapshot result. -/
def snapshotLines (snapshotResult : Dict Json) : List String :=
  ("- Snapshot round-trip: **" ++
      py.str ((snapshotResult.get? "status").getD (.str "unknown")) ++ "**") ::
    match field snapshotResult "dump_sha256" with
    | .str dumpSha256 => ["- Snapshot dump SHA-256: `" ++ dumpSha256 ++ "`"]
    | _ => []

/-- The last component of a path. -/
def fileName (path : String) : String :=
  String.ofList (path.toList.reverse.takeWhile (· ≠ '/')).reverse

/-- A line about a file, if it is there. -/
def fileLine (path : Option String) (line : String → String) : Run (List String) := do
  match path with
  | none => return []
  | some path =>
    if (← ask host (.isFile path)) = true then return [line (fileName path)] else return []

/-- The lines of a stage. -/
def resultLines (result : StageResult) : Run (List String) := do
  let diagnostics ← fileLine host result.snapshotDiagnosticPath fun name =>
    "- Snapshot diagnostics: `" ++ name ++ "`"
  let fixture ← fileLine host result.fixtureSnapshotPath fun _ =>
    "- Fixed fixture identity: verified"
  return ["## " ++ result.name, "- Checkout: `" ++ result.path ++ "`",
      "- SHA: `" ++ result.sha ++ "`", "- Status: **" ++ result.status.value ++ "**",
      "- Log: `" ++ fileName result.logPath ++ "`"] ++
    ((result.error.filter (· ≠ "")).map fun error => "- Error: `" ++ error ++ "`").toList ++
    (result.inventoryPath.map fun path => "- Inventory: `" ++ fileName path ++ "`").toList ++
    (result.snapshotResult.map (snapshotLines py)).getD [] ++ diagnostics ++ fixture ++
    (result.inventory.map inventoryLines).getD [] ++
    result.policyExceptions.map (fun policyException =>
      "- Allowed policy exception: `" ++ policyException ++ "`") ++ [""]

/-- `_write_summary`. -/
def writeSummary : Run Unit := do
  let s ← getState
  let warning :=
    (s.snapshotCleanupWarning.map fun warning => ["- Warning: " ++ warning, ""]).getD []
  let mut lines := ["# Migration upgrade validation", "",
    "VCS revisions and resolved commits are recorded without repository URLs. " ++
      "Version tags can move between runs; only a full commit SHA pins the exact source revision.",
    ""] ++ warning
  for result in s.results do
    let added ← resultLines py host result
    lines := lines ++ added
  ask host (.writeText (r.outputPath "summary.md") ("\n".intercalate lines))

/-- `_write_summary_best_effort`. -/
def writeSummaryBestEffort : Run Unit := do
  try writeSummary py host r
  catch _ => pure ()

/-! ### The stages -/

/-- A stage has failed: the database is cleaned up, and the summary is written if possible. -/
def failStage (message : String) : Run Unit := do
  cleanupSnapshotDatabase host r
  writeSummaryBestEffort py host r
  throw (.upgrade message)

/-- The outcome of a step that may raise a `MigrationUpgradeError`: its result or the message. -/
def catchUpgrade {α : Type} (x : Run α) : Run (Except String α) := do
  try
    let a ← x
    pure (.ok a)
  catch e =>
    match e with
    | .upgrade message => pure (.error message)
    | e => throw e

/-- The result of the stage that runs has failed. -/
def setFailed (message : String) : RunnerState → RunnerState :=
  updateResult fun result => { result with status := .failed, error := some message }

/-- One turn of the loop of `run`. -/
def turn (policy : UpgradePolicy) (stage : Stage) : Run Unit := do
  let pending (sha : String) : StageResult :=
    { name := stage.name, path := stage.path, sha
      logPath := r.outputPath (stage.name ++ ".log") }
  match ← catchUpgrade (stageSha py host stage) with
  | .error message =>
    update fun s => { s with results := s.results ++
      [{ pending "unavailable" with status := .failed, error := some message }] }
    failStage py host r message
  | .ok sha =>
    update fun s => { s with results := s.results ++ [pending sha] }
    match ← catchUpgrade (runStage py host r policy stage sha) with
    | .error message =>
      update (setFailed message)
      failStage py host r message
    -- The `else` clause: what it raises is not caught by the clause above.
    | .ok () =>
      update (updateResult fun result => { result with status := .passed })
      try writeSummary py host r
      catch e =>
        let message := "Summary write failed: " ++ e.text
        update (setFailed message)
        failStage py host r message

/-- The checks of the arguments. -/
def checkArguments : Run Unit := do
  if r.stages = [] then
    throw (.upgrade "At least one migration upgrade stage is required")
  let names := r.stages.map Stage.name
  let duplicateNames := Canonical.sorted id (names.filter fun name => 1 < names.count name).dedup
  if duplicateNames ≠ [] then
    throw (.upgrade ("Duplicate migration stage names: " ++
      ", ".intercalate (duplicateNames.map (repr py))))
  match r.snapshotRoundTripAfter with
  | none => pure ()
  | some after =>
    if after ∉ names then
      throw (.upgrade ("Unknown migration stage for snapshot round-trip: " ++ repr py after))
    if names.getLast? = some after then
      throw (.upgrade "Snapshot round-trip stage must leave at least one later stage")
    let _ ← validateSnapshotEnvironment (← getState).baseEnv

/-- The directories and the helpers. -/
def prepare : Run Unit := do
  ask host (.mkdir r.outputDir)
  ask host (.mkdir r.venvRoot)
  ask host (.mkdir (r.venvRoot ++ "/_helpers"))
  try
    ask host (.copyFile (r.helperRoot ++ "/migration_inventory.py") r.inventoryHelperPath)
    ask host (.copyFile (r.helperRoot ++ "/migration_snapshot_fixture.py")
      r.snapshotFixtureHelperPath)
  catch e =>
    match e with
    | .os _ => throw (.upgrade "Unable to prepare migration validation helpers")
    | e => throw e

/-- `run`. -/
def run : Run Unit := do
  checkArguments py r
  let policy ←
    try loadPolicy py host r
    catch e =>
      match e with
      | .inventory message =>
        throw (.upgrade ("Invalid migration inventory policy: " ++ message))
      | e => throw e
  prepare host r
  for stage in r.stages do
    turn py host r policy stage
  cleanupSnapshotDatabase host r
  try writeSummary py host r
  catch e => throw (.upgrade ("Summary write failed: " ++ e.text))

end Runner

end AapGateway.Tools
