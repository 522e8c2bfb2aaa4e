import AapGateway.Users.AssociationSafety
import AapGateway.Users.UserSerializer

/-!
# Application of user requests

`UserSerializer.update` and `create` apply the deprecated fields first and the new one after them,
in one transaction. The instance in memory carries the new username from the start, and may carry
the rows that were fetched with it: a loop over all rows of the user then runs over these, also when
they have been removed in the meantime.

## Main definitions

* `Failure`: how the application fails;
* `AssociationDb.processLegacyAuthenticatorFields`: the deprecated fields;
* `AssociationDb.processAssociated`: the new field;
* `AssociationDb.update` and `AssociationDb.create`.

## Main results

* `toOption_processAssociated`: the new field is applied as `processAssociatedAuthenticatorsField`
  says.
-/

namespace AapGateway.Users

/-- How the application of a request fails. -/
inductive Failure where
  /-- A validation error. -/
  | validation
  /-- The database refuses a uid that another user has at the authenticator. -/
  | taken
  /-- The database refuses a row for another reason. -/
  | integrity
  /-- Any other exception. -/
  | exception
  deriving DecidableEq, Repr

/-- The user that a request works on, in memory. -/
structure UserInstance extends UserRef where
  /-- The authenticator of `last_login_from`. -/
  lastLoginFrom : Option ℕ
  /-- The rows that were fetched with the instance, if they were. -/
  fetched : Option (List AuthenticatorUser)

/-- A user, and whether its rows are fetched with it. -/
structure StoredUser where
  pk : ℕ
  lastLoginFrom : Option ℕ
  prefetch : Bool

namespace AssociationDb

variable (db : AssociationDb)

/-- The instance of a stored user. -/
def load (user : StoredUser) : UserInstance where
  pk := user.pk
  username := db.usernames user.pk
  lastLoginFrom := user.lastLoginFrom
  fetched := if user.prefetch then some (db.rowsOf user.pk) else none

/-- `authenticator_users.all()`. -/
def allRows (user : UserInstance) : List AuthenticatorUser := user.fetched.getD (db.rowsOf user.pk)

/-! ## Single rows -/

/-- Inserting a row. -/
def insertRow (row : AuthenticatorUser) : Except Failure AssociationDb :=
  match db.createRow row with
  | some db => .ok db
  | none =>
    .error (if (db.uidConflict? row.provider row.uid row.user).isSome then .taken else .integrity)

/-- `authenticator_user.save()` with another uid. A row that is gone cannot be saved. -/
def setUid (r : AuthenticatorUser) (uid : DbText) : Except Failure AssociationDb :=
  if r ∈ db.rows then (db.removeRows (· = r)).insertRow { r with uid } else .error .exception

/-- Setting the uids of some rows, one after the other. The rows are returned as they are then. -/
def saveUids (uidFor : AuthenticatorUser → Option DbText) :
    AssociationDb → List AuthenticatorUser →
      Except Failure (AssociationDb × List AuthenticatorUser)
  | db, [] => .ok (db, [])
  | db, r :: rows =>
    match uidFor r with
    | none => do
      let (db, rows) ← saveUids uidFor db rows
      return (db, r :: rows)
    | some uid => do
      let db ← db.setUid r uid
      let (db, rows) ← saveUids uidFor db rows
      return (db, { r with uid } :: rows)

/-- The uid that is written at an authenticator: at a local one the username. -/
def writtenUid (provider : ℕ) (username : DbText) (uid : Option DbText) : Option DbText :=
  if db.isLocalAt provider then some username else uid

/-- `_create_authenticator_user`. A uid that is null conflicts with none, and is refused by the
database. -/
def createUserRow (id : ℕ) (uid : Option DbText) (user : UserRef) (email : Option String) :
    Except Failure AssociationDb :=
  match db.authenticator? id with
  | none => .error .validation
  | some a =>
    if uid.any fun uid => (db.uidConflict? a.id uid user.pk).isSome then .error .validation
    else
      match db.writtenUid a.id user.username uid with
      | none => .error .integrity
      | some uid => db.insertRow ⟨a.id, user.pk, uid, email⟩

/-! ## The deprecated fields -/

/-- `update_local_authenticator_uid_from_username`, with the answers of
`determine_username_from_uid`. -/
def updateLocalAuthenticatorUid (determine : AuthenticatorUser → DbText) (user : UserInstance) :
    Except Failure (AssociationDb × UserInstance) := do
  let (db', rows) ← saveUids
    (fun r => if db.isLocalAt r.provider then some (determine r) else none) db (db.allRows user)
  return (db', { user with fetched := user.fetched.map fun _ => rows })

/-- `_add_authenticators`. Looking up the empty choice raises. -/
def addAuthenticators (uid : Option DbText) (user : UserRef) :
    AssociationDb → List Choice → Except Failure AssociationDb
  | db, [] => .ok db
  | _, .blank :: _ => .error .exception
  | db, .id n :: added => do
    let db ← db.createUserRow n uid user none
    addAuthenticators uid user db added

/-- `_update_authenticator_uids`. -/
def updateAuthenticatorUids (uid : Option DbText) (user : UserInstance) :
    Except Failure AssociationDb := do
  let uidFor (r : AuthenticatorUser) : Option DbText :=
    if uid.all (· ∈ db.getAuthenticatorUids user.pk) then
      if db.isLocalAt r.provider ∧ r.uid ≠ user.username then some user.username else none
    else db.writtenUid r.provider user.username uid
  let (db', _) ← saveUids uidFor db (db.allRows user)
  return db'

/-- `_update_legacy_authenticator_uid`: only the authenticator of the last login is looked at. With
two rows there the query for the row raises. -/
def updateLegacyAuthenticatorUid (uid : DbText) (user : UserInstance) :
    Except Failure AssociationDb :=
  match user.lastLoginFrom with
  | none => .ok db
  | some target =>
    match (db.rowsOf user.pk).filter (·.provider = target) with
    | [] => .ok db
    | [r] =>
      let uid := if db.isLocalAt target then user.username else uid
      if r.uid ≠ uid then db.setUid r uid else .ok db
    | _ => .error .exception

/-- `_process_legacy_authenticator_fields`. An empty list removes all rows and reloads the instance,
which then has the stored username. -/
def processLegacyAuthenticatorFields (authenticators : Option (List Choice)) (uid : Option DbText)
    (user : UserInstance) : Except Failure (AssociationDb × UserInstance) :=
  match authenticators, uid with
  | some [], _ =>
    .ok (db.removeRows (·.user = user.pk),
      { user with username := db.usernames user.pk, fetched := none })
  | some authenticators, uid => do
    let existing := db.getAuthenticatorIds user.pk
    let removed := existing.filter fun id => Choice.id id ∉ authenticators
    let added := authenticators.filter fun choice => choice ∉ existing.map Choice.id
    let db ← addAuthenticators uid user.toUserRef (db.removeAuthenticators removed user.pk) added
    let db ← db.updateAuthenticatorUids uid user
    return (db, user)
  | none, some uid => do
    let db ← db.updateLegacyAuthenticatorUid uid user
    return (db, user)
  | none, none => .ok (db, user)

/-! ## The new field -/

/-- `_add_authenticator_from_associated_field`. -/
def addFromAssociatedField (id : ℕ) (uid : DbText) (user : UserRef) (email : Option String) :
    Except Failure AssociationDb :=
  match db.createUserRow id (some uid) user email with
  | .error .validation =>
    match db.authenticator? id with
    | none => .error .exception
    | some a =>
      if a.isLocal ∧ uid ≠ user.username then
        db.createUserRow id (some user.username) user email
      else .error .validation
  | result => result

/-- Adding the associations of a value, one after the other. -/
def addItems (user : UserRef) : AssociationDb → List (String × Json) → Except Failure AssociationDb
  | db, [] => .ok db
  | db, (key, details) :: rest =>
    match details.asDict? with
    | none => .error .exception
    | some details =>
      match details.value? "uid" with
      | none => addItems user db rest
      | some (.str uid) =>
        match pyInt key, DbText.ofString? uid, details.value? "email" with
        | some (.ofNat id), some uid, none => do
          let db ← db.addFromAssociatedField id uid user none
          addItems user db rest
        | some (.ofNat id), some uid, some (.str email) => do
          let db ← db.addFromAssociatedField id uid user (some email)
          addItems user db rest
        -- no such authenticator, no number, no parameter of a query, or an e-mail that is no text
        | _, _, _ => .error .exception
      | some _ => .error .exception

/-- `_process_associated_authenticators_field`. -/
def processAssociated (user : UserRef) (value : Dict Json) : Except Failure AssociationDb :=
  match db.validateConflicts user.pk value.items with
  | none => .error .exception
  | some (_ :: _) => .error .validation
  | some [] => addItems user (db.cleared user value.items) value.items

/-! ## Requests -/

/-- `_update_users_authenticators`. -/
def updateUsersAuthenticators (user : UserInstance) (data : UserFields) :
    Except Failure AssociationDb := do
  let (db, user) ← db.processLegacyAuthenticatorFields data.authenticators.join
    data.authenticatorUid user
  match data.associatedAuthenticators with
  | none => return db
  | some value => db.processAssociated user.toUserRef value

/-- Saving the user with its username. -/
def setUsername (user : ℕ) (username : DbText) : AssociationDb :=
  { db with usernames := Function.update db.usernames user username }

/-- The beginning of an update: a new username goes to the uids at local authenticators, unless the
request has the new field. -/
def updateUsername (determine : AuthenticatorUser → DbText) (stored : StoredUser)
    (username : DbText) (data : UserFields) : Except Failure (AssociationDb × UserInstance) :=
  let user := { db.load stored with username }
  if (db.load stored).username ≠ username ∧ data.associatedAuthenticators = none then
    db.updateLocalAuthenticatorUid determine user
  else .ok (db, user)

/-- `UserSerializer.update`. -/
def update (determine : AuthenticatorUser → DbText) (stored : StoredUser) (data : UserFields) :
    Except Failure AssociationDb := do
  let username := data.username.getD (db.load stored).username
  let (db, user) ← db.updateUsername determine stored username data
  let db ← db.updateUsersAuthenticators user data
  return db.setUsername stored.pk username

/-- `UserSerializer.create`, the new user having this key. -/
def create (pk : ℕ) (data : UserFields) : Except Failure AssociationDb :=
  let username := data.username.getD DbText.empty
  (db.setUsername pk username).updateUsersAuthenticators
    { pk, username, lastLoginFrom := none, fetched := none } data

/-- The application of a request. A creation gives the user its key. -/
def perform (determine : AuthenticatorUser → DbText) (action : Action) (stored : StoredUser)
    (data : UserFields) : Except Failure AssociationDb :=
  match action with
  | .create => db.create stored.pk data
  | .put | .patch => db.update determine stored data

/-- The username that the user has after a request. -/
def usernameAfter (action : Action) (stored : StoredUser) (data : UserFields) : DbText :=
  match action with
  | .create => data.username.getD DbText.empty
  | .put | .patch => data.username.getD (db.usernames stored.pk)

/-- A request is accepted: it is valid, and it is applied without a failure. -/
def Accepts (validators : UserValidators) (determine : AuthenticatorUser → DbText)
    (superuser : Bool) (action : Action) (stored : StoredUser) (otherErrors : List String)
    (payload : UserPayload) (data : UserFields) (db' : AssociationDb) : Prop :=
  db.runValidation validators superuser action stored.pk otherErrors payload = .valid data ∧
    db.perform determine action stored data = .ok db'

/-! ## The new field, without the kind of failure -/

/-- The uid that is written is the one of `createAuthenticatorUser`. -/
theorem writtenUid_some {id : ℕ} {a : Authenticator} (h : db.authenticator? id = some a)
    (username uid : DbText) :
    db.writtenUid a.id username (some uid) =
      some (if a.isLocal ∧ uid ≠ username then username else uid) := by
  have hid : a.id = id := id_of_authenticator? h
  unfold writtenUid isLocalAt
  rw [hid, h, Option.any_some]
  -- At a local authenticator the uid is the username, whether it was before or not.
  by_cases hlocal : a.isLocal = true
  · rw [if_pos hlocal]
    by_cases hsame : uid = username
    · rw [if_neg fun hne => hne.2 hsame, hsame]
    · rw [if_pos ⟨hlocal, hsame⟩]
  · rw [if_neg hlocal, if_neg fun hne => hlocal hne.1]

/-- An insertion fails exactly if the row cannot be created, and not with a validation error. -/
theorem insertRow_cases (row : AuthenticatorUser) :
    (∃ db', db.createRow row = some db' ∧ db.insertRow row = .ok db') ∨
      db.createRow row = none ∧ ∃ failure, failure ≠ .validation ∧
        db.insertRow row = .error failure := by
  unfold insertRow
  cases hcreate : db.createRow row with
  | some db' => exact Or.inl ⟨db', rfl, rfl⟩
  | none =>
      refine Or.inr ⟨rfl, _, ?_, rfl⟩
      split <;> decide

/-- How the creation of a row ends. -/
theorem createAuthenticatorUser_eq_createUserRow (id : ℕ) (uid : DbText) (user : UserRef)
    (email : Option String) :
    db.createAuthenticatorUser id uid user email =
      match db.createUserRow id (some uid) user email with
      | .ok db => .created db
      | .error .validation => .validationError
      | .error _ => .integrityError := by
  unfold createAuthenticatorUser createUserRow
  cases ha : db.authenticator? id with
  | none => rfl
  | some a =>
      dsimp only
      rw [Option.any_some, db.writtenUid_some ha]
      cases db.uidConflict? a.id uid user.pk with
      | some r => rfl
      | none =>
          dsimp only
          rw [Option.isSome_none, if_neg Bool.false_ne_true]
          rcases db.insertRow_cases
            ⟨a.id, user.pk, if a.isLocal ∧ uid ≠ user.username then user.username else uid, email⟩
            with ⟨db', hcreate, hinsert⟩ | ⟨hcreate, failure, hne, hinsert⟩
          · rw [hcreate, hinsert]
          · rw [hcreate, hinsert]
            cases failure with
            | validation => exact absurd rfl hne
            | _ => rfl

/-- One association is added as `addAuthenticatorFromAssociatedField` says. -/
theorem toOption_addFromAssociatedField (id : ℕ) (uid : DbText) (user : UserRef)
    (email : Option String) :
    (db.addFromAssociatedField id uid user email).toOption =
      db.addAuthenticatorFromAssociatedField id uid user email := by
  unfold addFromAssociatedField addAuthenticatorFromAssociatedField
  rw [createAuthenticatorUser_eq_createUserRow]
  cases db.createUserRow id (some uid) user email with
  | ok db' => rfl
  | error failure =>
      cases failure with
      | validation =>
          cases db.authenticator? id with
          | none => rfl
          | some a =>
              dsimp only
              -- Only a local authenticator gets a second try.
              split
              · rw [createAuthenticatorUser_eq_createUserRow]
                cases db.createUserRow id (some user.username) user email with
                | ok db' => rfl
                | error failure => cases failure <;> rfl
              · rfl
      | _ => rfl

/-- No authenticator has a negative id. -/
theorem addAuthenticatorFromAssociatedField_negSucc (n : ℕ) (uid : DbText) (user : UserRef)
    (email : Option String) :
    db.addAuthenticatorFromAssociatedField (Int.negSucc n) uid user email = none := by
  have hnone : db.authenticator? (Int.negSucc n) = none := by
    refine List.find?_eq_none.mpr fun a _ => ?_
    rw [decide_eq_true_iff]
    omega
  unfold addAuthenticatorFromAssociatedField createAuthenticatorUser
  rw [hnone]

/-- So are the associations of a value. -/
theorem toOption_addItems (user : UserRef) (items : List (String × Json)) :
    (addItems user db items).toOption = addAll user db items := by
  induction items generalizing db with
  | nil => rfl
  | cons item items ih =>
      obtain ⟨key, details⟩ := item
      have hadd : ∀ (id : ℕ) (uid : DbText) (email : Option String),
          ((db.addFromAssociatedField id uid user email).bind
            fun db => addItems user db items).toOption =
            (db.addAuthenticatorFromAssociatedField id uid user email).bind
              fun db => addAll user db items := by
        intro id uid email
        rw [← db.toOption_addFromAssociatedField]
        cases db.addFromAssociatedField id uid user email with
        | error failure => rfl
        | ok db' => exact ih db'
      rw [addItems, addAll]
      cases details.asDict? with
      | none => rfl
      | some details =>
          dsimp only
          rw [Option.bind_eq_bind, Option.bind_some]
          cases details.value? "uid" with
          | none => exact ih db
          | some uid =>
              cases uid with
              | str uid =>
                  dsimp only
                  cases pyInt key with
                  | none => rfl
                  | some id =>
                      cases DbText.ofString? uid with
                      | none => cases id <;> rfl
                      | some uid =>
                          cases id with
                          | ofNat id =>
                              cases details.value? "email" with
                              | none => exact hadd id uid none
                              | some email =>
                                  cases email with
                                  | str email => exact hadd id uid (some email)
                                  | _ => rfl
                          | negSucc n =>
                              -- Whatever the e-mail is, the authenticator is not found.
                              have hnone :=
                                db.addAuthenticatorFromAssociatedField_negSucc n uid user
                              cases details.value? "email" with
                              | none => simp [hnone, Except.toOption]
                              | some email => cases email <;> simp [hnone, Except.toOption]
              | _ => rfl

/-- The new field is applied as `processAssociatedAuthenticatorsField` says. -/
theorem toOption_processAssociated (user : UserRef) (value : Dict Json) :
    (db.processAssociated user value).toOption =
      db.processAssociatedAuthenticatorsField user value := by
  unfold processAssociated processAssociatedAuthenticatorsField
  cases db.validateConflicts user.pk value.items with
  | none => rfl
  | some conflicts =>
      cases conflicts with
      | nil => exact toOption_addItems _ user value.items
      | cons conflict conflicts => rfl

end AssociationDb

end AapGateway.Users
