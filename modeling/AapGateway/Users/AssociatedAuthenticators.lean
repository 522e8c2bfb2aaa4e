import AapGateway.Foundations.JsonDict
import AapGateway.Foundations.Text
import AapGateway.Users.ReverseSync

/-!
# Authenticator associations of a user

`associated_authenticators` of `UserSerializer` maps authenticator ids to the uid, and optionally
the e-mail, a user has there. Its validation lets three kinds of values pass: an empty one, the
value on record, and for superusers any well-formed one. The update then removes every association
of the user and adds those of the value.

The deprecated fields `authenticators` and `authenticator_uid` are absent here.

## Main definitions

* `AssociationDb`: the authenticators and the rows of `AuthenticatorUser`;
* `AssociationDb.validateAssociatedAuthenticators`: the validation of the field;
* `AssociationDb.processAssociatedAuthenticatorsField`: the update of the associations;
* `AssociationDb.updateUser`: both, for one request.
-/

namespace AapGateway.Users

/-- A row of `AuthenticatorUser`. -/
structure AuthenticatorUser where
  /-- The authenticator's id. -/
  provider : ℕ
  /-- The user's primary key. -/
  user : ℕ
  /-- The name of the user at the authenticator. -/
  uid : DbText
  /-- The e-mail of the user at the authenticator. -/
  email : Option String
  deriving DecidableEq

/-- An authenticator. -/
structure Authenticator where
  id : ℕ
  /-- It is a column of 64 bits. -/
  id_lt : id < 2 ^ 63
  name : String
  /-- The type of its plugin is `local`. -/
  isLocal : Bool
  deriving DecidableEq

/-- The authenticators and the associations, with the constraints of the database. -/
structure AssociationDb where
  /-- The authenticators. -/
  authenticators : List Authenticator
  /-- The usernames on record, for the texts of errors. -/
  usernames : ℕ → DbText
  /-- The e-mails of the users. -/
  emails : ℕ → String
  /-- `AuthenticatorUser`. -/
  rows : List AuthenticatorUser
  /-- A provider gives a uid to one user. -/
  unique : (rows.map fun r => (r.provider, r.uid)).Nodup
  /-- `provider` is a foreign key. -/
  provider_mem : ∀ r ∈ rows, r.provider ∈ authenticators.map Authenticator.id

/-- What a user has at an authenticator. -/
structure Details where
  uid : DbText
  /-- An empty e-mail is none. -/
  email : Option String
  deriving DecidableEq

/-- The entry of a row in `get_associated_authenticators`. -/
def AuthenticatorUser.details (r : AuthenticatorUser) : Details :=
  { uid := r.uid, email := r.email.filter (· ≠ "") }

/-- The user an update is for, as the request leaves it. -/
structure UserRef where
  pk : ℕ
  /-- The username, already the new one if the request changes it. -/
  username : DbText

namespace AssociationDb

variable (db : AssociationDb)

/-- The rows of a user. -/
def rowsOf (user : ℕ) : List AuthenticatorUser := db.rows.filter (·.user = user)

/-- `get_associated_authenticators`: one entry for each authenticator, the last row of it. -/
def getAssociatedAuthenticators (user : ℕ) : List (ℕ × Details) :=
  (db.rowsOf user).foldl (fun d r => Table.upsert Prod.fst (r.provider, r.details) d) []

/-- The authenticator of an id. -/
def authenticator? (id : ℤ) : Option Authenticator := db.authenticators.find? (·.id = id)

/-- `_check_uid_conflict`: another user's row with that uid. -/
def uidConflict? (provider : ℕ) (uid : DbText) (user : ℕ) : Option AuthenticatorUser :=
  db.rows.find? fun r => r.provider = provider ∧ r.uid = uid ∧ r.user ≠ user

/-- The text of a conflict. -/
def conflictMessage (a : Authenticator) (uid : DbText) (r : AuthenticatorUser) : String :=
  let name := a.name
  let uid := uid.text
  let username := (db.usernames r.user).text
  s!"UID '{uid}' is already in use for authenticator '{name}' by user '{username}'"

/-! ## Validation -/

/-- The value of the field equals an entry on record. -/
def matchesDetails (d : Details) (v : Json) : Bool :=
  match v.asDict? with
  | none => false
  | some data =>
    (data.items.all fun item => item.1 = "uid" ∨ item.1 = "email") &&
      (match data.get? "uid" with
        | some (.str uid) => uid = d.uid.text
        | _ => false) &&
      (match data.get? "email", d.email with
        | none, none => true
        | some (.str email), some recorded => email = recorded
        | _, _ => false)

/-- `normalized_existing == normalized_submitted`: keys compare as texts. -/
def matchesRecord (existing : List (ℕ × Details)) (value : Json) : Bool :=
  match value.asDict? with
  | none => false
  | some submitted =>
    (submitted.items.all fun item => existing.any fun entry => toString entry.1 = item.1) &&
      existing.all fun entry =>
        match submitted.get? (toString entry.1) with
        | some v => matchesDetails entry.2 v
        | none => false

/-- `_validate_authenticator_keys_exist`. -/
def validateAuthenticatorKeysExist (keys : List String) : List String :=
  match keys.mapM pyInt with
  | none => ["All authenticator IDs (the keys) must be valid integers."]
  | some ids =>
    let missing := (ids.filter fun id => (db.authenticator? id).isNone).dedup.insertionSort (· ≤ ·)
    if missing.isEmpty then []
    else
      let text := ", ".intercalate (missing.map toString)
      [s!"The following authenticator IDs do not exist: {text}"]

/-- `_validate_email_value`. -/
def validateEmailValue (validEmail : String → Bool) (authId : String) (details : Dict Json) :
    List String :=
  match details.value? "email" with
  | none => []
  | some (.str email) =>
    if validEmail email then []
    else [s!"The email '{email}' for authenticator '{authId}' is not a valid email address."]
  | some _ => [s!"The 'email' for authenticator '{authId}' must be a string or null."]

/-- `_validate_single_authenticator_entry`. -/
def validateSingleAuthenticatorEntry (validEmail : String → Bool) (authId : String)
    (details : Json) :
    List String :=
  match details.asDict? with
  | none => [s!"The value for key '{authId}' must be a dictionary."]
  | some details =>
    let unknown := (details.items.map Prod.fst).filter fun key => key ≠ "uid" ∧ key ≠ "email"
    let text := ", ".intercalate (unknown.insertionSort (· ≤ ·))
    let unknownErrors := if unknown.isEmpty then [] else
      [s!"Unknown key(s) for authenticator '{authId}': {text}. Only 'uid' and 'email' are allowed."]
    let uidErrors := match details.get? "uid" with
      | some (.str uid) => if uid = "" then
          [s!"Each authenticator must have a non-empty 'uid' string. Error at key '{authId}'."]
        else []
      | _ => [s!"Each authenticator must have a non-empty 'uid' string. Error at key '{authId}'."]
    unknownErrors ++ uidErrors ++ validateEmailValue validEmail authId details

/-- `_validate_associated_authenticators_conflicts`: the conflicts, or an exception on a value that
is no dictionary, on a key that is no number, and on a uid that is no parameter of a query. -/
def validateConflicts (user : ℕ) : List (String × Json) → Option (List String)
  | [] => some []
  | (key, details) :: rest => do
    let details ← details.asDict?
    match details.get? "uid" with
    | some uid =>
      if uid.truthy then
        let id ← pyInt key
        let errors ← validateConflicts user rest
        match db.authenticator? id, uid with
        | some a, .str uid =>
          let uid ← DbText.ofString? uid
          match db.uidConflict? a.id uid user with
          | some r => return db.conflictMessage a uid r :: errors
          | none => return errors
        -- no such authenticator, or a uid that is no text: other checks name these
        | _, _ => return errors
      else validateConflicts user rest
    | none => validateConflicts user rest

/-- `validate_associated_authenticators` of an update: the value to apply. -/
def validateAssociatedAuthenticators (validEmail : String → Bool) (superuser : Bool) (user : ℕ)
    (value : Json) : Stage (Dict Json) :=
  if !value.truthy then .valid Dict.empty
  else
    match value.asDict? with
    | some submitted =>
      if matchesRecord (db.getAssociatedAuthenticators user) value then .valid submitted
      else if !superuser then
        .invalid ["Only superusers can manage associated_authenticators using this field."]
      else
        match db.validateConflicts user submitted.items with
        | none => .raised
        | some conflicts =>
          let errors := db.validateAuthenticatorKeysExist (submitted.items.map Prod.fst) ++
            submitted.items.flatMap (fun item =>
              validateSingleAuthenticatorEntry validEmail item.1 item.2) ++ conflicts
          if errors.isEmpty then .valid submitted else .invalid errors
    | none =>
      if !superuser then
        .invalid ["Only superusers can manage associated_authenticators using this field."]
      else .invalid ["This field must be a JSON object (dictionary)."]

/-! ## Update -/

/-- Removing rows. -/
def removeRows (p : AuthenticatorUser → Bool) : AssociationDb where
  authenticators := db.authenticators
  usernames := db.usernames
  emails := db.emails
  rows := Table.erase p db.rows
  unique := db.unique.sublist (List.filter_sublist.map _)
  provider_mem r hr := db.provider_mem r (Table.mem_erase.mp hr).1

/-- `_remove_authenticators`. -/
def removeAuthenticators (ids : List ℕ) (user : ℕ) : AssociationDb :=
  ids.foldl (fun db id => db.removeRows fun r => r.user = user ∧ r.provider = id) db

/-- Setting a user's e-mail, if there is one to set. -/
def setEmail (user : ℕ) : Option String → AssociationDb
  | some email => { db with emails := Function.update db.emails user email }
  | none => db

/-- The first e-mail of a value. -/
def firstEmail? (items : List (String × Json)) : Option String :=
  items.findSome? fun item =>
    match (item.2.asDict?).bind fun details => details.value? "email" with
    | some (.str email) => some email
    | _ => none

/-- Inserting a row, if the constraints allow it. -/
def createRow (row : AuthenticatorUser) : Option AssociationDb :=
  if h : (row.provider, row.uid) ∉ db.rows.map (fun r => (r.provider, r.uid)) ∧
      row.provider ∈ db.authenticators.map Authenticator.id then
    some
      { authenticators := db.authenticators
        usernames := db.usernames
        emails := db.emails
        rows := db.rows ++ [row]
        unique := by
          rw [List.map_append]
          refine db.unique.append (List.nodup_singleton _) fun pair hpair hrow => ?_
          rw [List.map_cons, List.map_nil, List.mem_singleton] at hrow
          exact h.1 (hrow ▸ hpair)
        provider_mem := by
          intro r hr
          rcases List.mem_append.mp hr with hr | hr
          · exact db.provider_mem r hr
          · rw [List.mem_singleton.mp hr]
            exact h.2 }
  else none

/-- How `_create_authenticator_user` ends. -/
inductive Created where
  | created (db : AssociationDb)
  /-- No such authenticator, or the uid is another user's. -/
  | validationError
  /-- A constraint of the database. -/
  | integrityError

/-- `_create_authenticator_user`: at a local authenticator the uid is the username. -/
def createAuthenticatorUser (id : ℤ) (uid : DbText) (user : UserRef) (email : Option String) :
    Created :=
  match db.authenticator? id with
  | none => .validationError
  | some a =>
    match db.uidConflict? a.id uid user.pk with
    | some _ => .validationError
    | none =>
      let uid := if a.isLocal ∧ uid ≠ user.username then user.username else uid
      match db.createRow ⟨a.id, user.pk, uid, email⟩ with
      | some db => .created db
      | none => .integrityError

/-- `_add_authenticator_from_associated_field`: a local authenticator gets a second try. -/
def addAuthenticatorFromAssociatedField (id : ℤ) (uid : DbText) (user : UserRef)
    (email : Option String) : Option AssociationDb :=
  match db.createAuthenticatorUser id uid user email with
  | .created db => some db
  | .integrityError => none
  | .validationError =>
    match db.authenticator? id with
    | none => none
    | some a =>
      if a.isLocal ∧ uid ≠ user.username then
        match db.createAuthenticatorUser id user.username user email with
        | .created db => some db
        | _ => none
      else none

/-- Adding the associations of a value, one after the other. -/
def addAll (user : UserRef) : AssociationDb → List (String × Json) → Option AssociationDb
  | db, [] => some db
  | db, (key, details) :: rest => do
    let details ← details.asDict?
    match details.value? "uid" with
    | none => addAll user db rest
    | some (.str uid) =>
      let id ← pyInt key
      let uid ← DbText.ofString? uid
      let email ← match details.value? "email" with
        | none => some none
        | some (.str email) => some (some email)
        | some _ => none
      let db ← db.addAuthenticatorFromAssociatedField id uid user email
      addAll user db rest
    | some _ => none

/-- `_process_associated_authenticators_field`, or `none` when it raises and the transaction is
rolled back. -/
def processAssociatedAuthenticatorsField (user : UserRef) (value : Dict Json) :
    Option AssociationDb := do
  let conflicts ← db.validateConflicts user.pk value.items
  if conflicts.isEmpty then
    let ids := (db.rowsOf user.pk).map AuthenticatorUser.provider
    let removed := (db.removeAuthenticators ids user.pk).setEmail user.pk (firstEmail? value.items)
    addAll user removed value.items
  else none

/-- A value of the field in a request. -/
structure Submitted where
  value : Json
  /-- A form field holds the text of the value, and `null` is then read after the check for it. -/
  isForm : Bool

/-- The field's own validation, then `validate_associated_authenticators`. -/
def validateField (validEmail : String → Bool) (superuser : Bool) (user : ℕ) (field : Submitted) :
    Stage (Dict Json) :=
  match field.value, field.isForm with
  | .null, false => .invalid ["This field may not be null."]
  | value, _ => db.validateAssociatedAuthenticators validEmail superuser user value

/-- What an update request leaves: the associations it stores, or those that were there. -/
def updateUser (validEmail : String → Bool) (superuser : Bool) (user : UserRef)
    (field : Submitted) :
    AssociationDb :=
  match db.validateField validEmail superuser user.pk field with
  | .valid value => (db.processAssociatedAuthenticatorsField user value).getD db
  | .invalid _ => db
  | .raised => db

end AssociationDb

end AapGateway.Users
