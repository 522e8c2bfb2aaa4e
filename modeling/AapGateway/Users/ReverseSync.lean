import AapGateway.Foundations.Dict

/-!
# Reverse sync of users

A service that changes a user reports the change to the gateway, and `GetOrCreateProcessor` stores
it. The payload goes through the gateway's own `UserSerializer` first, so that its rules apply. A
field that fails is taken out of the payload, and the rest is stored.

The serializer works in stages. Every field is validated on its own, and only when none failed does
`validate` run: the check of the shared base class, then `_validate_email_change`, then the
authenticator fields. The policy on e-mail changes is in the second stage, and the processor takes
out only the fields named in the errors of the stage that failed.

## Main definitions

* `UserModel`: what the gateway's code calls here and does not define;
* `UserModel.validateViaGatewaySerializer`: what is left of a payload;
* `UserModel.save`: the processor, for new and existing resources.
-/

namespace AapGateway.Users

variable {β ρ : Type} [DecidableEq β]

/-- A user: a row of the database, and the object read from it. -/
structure UserRow (β : Type) where
  /-- The primary key. -/
  pk : ℕ
  /-- Managed users are hidden from the default manager. -/
  managed : Bool
  /-- The attributes of the object. -/
  attr : String → Option β

/-- The users. -/
structure UserTable (β : Type) where
  /-- The rows. -/
  rows : List (UserRow β)
  /-- The primary key. -/
  pk_nodup : (rows.map UserRow.pk).Nodup

/-- The row of a primary key. -/
def UserTable.get? (t : UserTable β) (pk : ℕ) : Option (UserRow β) := t.rows.find? (·.pk = pk)

/-- Writing a row. -/
def UserTable.put (t : UserTable β) (row : UserRow β) : UserTable β where
  rows := Table.upsert UserRow.pk row t.rows
  pk_nodup := Table.nodup_map_key_upsert t.pk_nodup

/-- How a stage of the validation ends. -/
inductive Stage (α : Type) where
  /-- An exception other than a validation error. -/
  | raised
  /-- A validation error, with the fields it names. -/
  | invalid (errors : List String)
  /-- The validated data. -/
  | valid (data : α)

/-- One stage after the other, as long as none fails. -/
def Stage.andThen {α γ : Type} : Stage α → (α → Stage γ) → Stage γ
  | .raised, _ => .raised
  | .invalid errors, _ => .invalid errors
  | .valid data, next => next data

/-- What the processor calls and does not define, over the requesters `ρ` and the values `β`. -/
structure UserModel (β ρ : Type) where
  /-- The names of the columns of the model that are not its primary key. -/
  isColumn : String → Bool
  /-- The e-mail is one of them. -/
  isColumn_email : isColumn "email" = true
  /-- The unique fields, by which an existing user is found. -/
  lookupKeys : List String
  /-- The primary key of an object. Some attributes that may be set are names of it. -/
  pkOf : UserRow β → ℕ
  /-- Setting these attributes of an object, or saving it with them, raises and stores nothing: an
  attribute that cannot be set, a value that its column does not take, a constraint of the table.
  Named columns are `update_fields`. -/
  refuses : UserTable β → Option ρ → UserRow β → Option (List String) → List (String × β) → Bool
  /-- The validation of the fields, each on its own. -/
  validateFields : Option ρ → UserRow β → Dict β → Stage (Dict β)
  /-- `CommonUserSerializer.validate`. -/
  commonValidate : Option ρ → UserRow β → Dict β → Stage (Dict β)
  /-- The part of `validate` about `authenticators` and `authenticator_uid`. -/
  validateAuthenticators : UserRow β → Dict β → Stage (Dict β)
  /-- `can_change_user` with `can_self_edit=False`. -/
  canChangeUser : ρ → UserRow β → Bool

namespace UserModel

variable (model : UserModel β ρ)

/-- `_validate_email_change`. -/
def validateEmailChange (requester : Option ρ) (instance_ : UserRow β) (data : Dict β) :
    Stage (Dict β) :=
  match data.get? "email" with
  | none => .valid data
  | some email =>
    if instance_.attr "email" = some email then .valid data
    else
      match requester with
      -- the system's own sync
      | none => .valid data
      | some user => if model.canChangeUser user instance_ then .valid data else .invalid ["email"]

/-- `UserSerializer.validate`. -/
def validate (requester : Option ρ) (instance_ : UserRow β) (data : Dict β) :
    Stage (Dict β) :=
  ((model.commonValidate requester instance_ data).andThen
    (model.validateEmailChange requester instance_)).andThen
      (model.validateAuthenticators instance_)

/-- `is_valid`: `validate` runs when no field failed. -/
def isValid (requester : Option ρ) (instance_ : UserRow β) (data : Dict β) : Stage (Dict β) :=
  (model.validateFields requester instance_ data).andThen (model.validate requester instance_)

/-- The fields to drop when the serializer breaks. -/
def sensitiveFields : List String := ["email", "is_superuser", "is_staff"]

/-- The key of the errors that are about no field. -/
def nonFieldErrors : String := "non_field_errors"

/-- `_validate_via_gateway_serializer`: what is left of the payload. -/
def validateViaGatewaySerializer (requester : Option ρ) (instance_ : UserRow β) (data : Dict β) :
    Dict β :=
  match model.isValid requester instance_ data with
  | .valid _ => data
  | .raised => data.without sensitiveFields
  | .invalid errors => if nonFieldErrors ∈ errors then .empty else data.without errors

/-- An item the object does not have with that value. -/
def differs (instance_ : UserRow β) (item : String × β)  : Bool :=
  instance_.attr item.1 ≠ some item.2

/-- `setattr` of every item. -/
def setAll (instance_ : UserRow β) (items : List (String × β)) : UserRow β :=
  { instance_ with
    attr := items.foldl
      (fun attr item => Function.update attr item.1 (some item.2)) instance_.attr }

/-- The stored row once an object is saved: the columns of the object. -/
def saved (instance_ object : UserRow β) : UserRow β :=
  { instance_ with
    attr := fun key => if model.isColumn key then object.attr key else instance_.attr key }

/-- The update of an existing resource. `update_fields` must name columns, or the save raises, and
nothing is stored by a save that is refused. -/
def saveExisting (t : UserTable β) (requester : Option ρ) (instance_ : UserRow β)
    (data : Dict β) : UserTable β :=
  let data := model.validateViaGatewaySerializer requester instance_ data
  let changed := data.items.filter (differs instance_)
  if changed.isEmpty then t
  else if (changed.all fun item => model.isColumn item.1) &&
      !model.refuses t requester instance_ (some (changed.map Prod.fst)) changed then
    t.put (model.saved instance_ (setAll instance_ changed))
  else t

/-- The first user the default manager finds by the unique fields of the payload. -/
def existing? (t : UserTable β) (data : Dict β) : Option (UserRow β) :=
  Table.firstByKey UserRow.pk (t.rows.filter fun row => !row.managed &&
    (data.only model.lookupKeys).items.all fun item => row.attr item.1 = some item.2)

/-- `_save_new`: find the resource by its unique fields and update it, or create it. An update saves
all columns, to the row of the object's primary key. -/
def saveNew (t : UserTable β) (requester : Option ρ) (newPk : ℕ) (data : Dict β) : UserTable β :=
  let rest := data.without model.lookupKeys
  match model.existing? t data with
  | some instance_ =>
    let rest := model.validateViaGatewaySerializer requester instance_ rest
    if rest.items.any (differs instance_) &&
        !model.refuses t requester instance_ none rest.items then
      let object := setAll instance_ rest.items
      t.put { model.saved instance_ object with pk := model.pkOf object }
    else t
  | none => t.put (setAll ⟨newPk, false, fun _ => none⟩ data.items)

/-- Whether the resource is new to the service, and which row it is if not. -/
inductive Target where
  /-- `is_new=True`: a new row would get this primary key. -/
  | new (newPk : ℕ)
  /-- `is_new=False`: the resource's row. -/
  | existing (pk : ℕ)

/-- `save`. -/
def save (t : UserTable β) (requester : Option ρ) (target : Target) (data : Dict β) :
    UserTable β :=
  match target with
  | .new newPk => model.saveNew t requester newPk data
  | .existing pk =>
    match t.get? pk with
    | some instance_ => model.saveExisting t requester instance_ data
    | none => t

/-- The existing user a payload resolves to. -/
def resolves? (t : UserTable β) (target : Target) (data : Dict β) : Option (UserRow β) :=
  match target with
  | .new _ => model.existing? t data
  | .existing pk => t.get? pk

/-- The part of the payload that is validated and stored. -/
def stored (target : Target) (data : Dict β) : Dict β :=
  match target with
  | .new _ => data.without model.lookupKeys
  | .existing _ => data

/-- The e-mail on record. -/
def email? (t : UserTable β) (pk : ℕ) : Option β := (t.get? pk).bind fun row => row.attr "email"

end UserModel

end AapGateway.Users
