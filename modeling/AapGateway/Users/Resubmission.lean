import AapGateway.Users.RoundTrip

/-!
# Sending the associations on record

A value of `associated_authenticators` that equals the one on record is accepted from everyone, as
if it changed nothing. It is applied like any other value: the rows of the user are removed and new
ones are created, with new keys and without the columns that the field does not show, and an e-mail
of the value becomes the e-mail of the user.

The tables with these columns refine those without. An update has the new field only; a key of the
value that is an integer is the text of it.

## Main definitions

* `AccountDb`: the associations with all columns;
* `AccountDb.updateField`: an update with the new field.

## Main results

* `visible_updateField`: without the hidden columns it is the update of `AssociationDb`;
* `resubmission_iff`: when the value on record leaves the rows, their contents and the e-mail;
* `not_resubmission_claims`: the claims of an LDAP user are lost.
-/

namespace AapGateway.Users

variable {γ : Type}

/-- A row of `AuthenticatorUser` with its key and the columns that the field does not show, such as
`claims` and `extra_data`. -/
structure AccountRow (γ : Type) extends AuthenticatorUser where
  pk : ℕ
  hidden : γ

/-- The associations with all columns. -/
structure AccountDb (γ : Type) where
  /-- What the field shows of the rows, and the other tables. -/
  visible : AssociationDb
  rows : List (AccountRow γ)
  /-- The key of the next row. -/
  nextPk : ℕ
  rows_visible : rows.map AccountRow.toAuthenticatorUser = visible.rows
  pk_lt : ∀ r ∈ rows, r.pk < nextPk

namespace AccountDb

variable (db : AccountDb γ)

/-- The rows of a user. -/
def rowsOf (user : ℕ) : List (AccountRow γ) := db.rows.filter (·.user = user)

/-- Removing rows. -/
def removeRows (p : AuthenticatorUser → Bool) : AccountDb γ where
  visible := db.visible.removeRows p
  rows := Table.erase (fun r => p r.toAuthenticatorUser) db.rows
  nextPk := db.nextPk
  rows_visible := by
    show _ = Table.erase p db.visible.rows
    rw [← db.rows_visible]
    unfold Table.erase
    rw [List.filter_map]
    rfl
  pk_lt r hr := db.pk_lt r (Table.mem_erase.mp hr).1

/-- `_remove_authenticators`. -/
def removeAuthenticators (ids : List ℕ) (user : ℕ) : AccountDb γ :=
  ids.foldl (fun db id => db.removeRows fun r => r.user = user ∧ r.provider = id) db

/-- Setting a user's e-mail, if there is one to set. -/
def setEmail (user : ℕ) (email : Option String) : AccountDb γ where
  visible := db.visible.setEmail user email
  rows := db.rows
  nextPk := db.nextPk
  rows_visible := by rw [AssociationDb.rows_setEmail, db.rows_visible]
  pk_lt := db.pk_lt

/-- Inserting a row, with the values that a new row has in the hidden columns. -/
def insertRow (fresh : γ) (row : AuthenticatorUser) : Except Failure (AccountDb γ) :=
  match h : db.visible.createRow row with
  | some visible =>
    .ok
      { visible
        rows := db.rows ++ [{ toAuthenticatorUser := row, pk := db.nextPk, hidden := fresh }]
        nextPk := db.nextPk + 1
        rows_visible := by
          rw [List.map_append, db.rows_visible, (AssociationDb.createRow_eq_some h).1]
          rfl
        pk_lt := by
          intro r hr
          rcases List.mem_append.mp hr with hr | hr
          · exact Nat.lt_succ_of_lt (db.pk_lt r hr)
          · rw [List.mem_singleton.mp hr]
            exact Nat.lt_succ_self db.nextPk }
  | none =>
    .error (if (db.visible.uidConflict? row.provider row.uid row.user).isSome then .taken
      else .integrity)

/-- `_create_authenticator_user`. -/
def createUserRow (fresh : γ) (id : ℕ) (uid : Option DbText) (user : UserRef)
    (email : Option String) : Except Failure (AccountDb γ) :=
  match db.visible.authenticator? id with
  | none => .error .validation
  | some a =>
    if uid.any fun uid => (db.visible.uidConflict? a.id uid user.pk).isSome then .error .validation
    else
      match db.visible.writtenUid a.id user.username uid with
      | none => .error .integrity
      | some uid => db.insertRow fresh ⟨a.id, user.pk, uid, email⟩

/-- `_add_authenticator_from_associated_field`. -/
def addFromAssociatedField (fresh : γ) (id : ℕ) (uid : DbText) (user : UserRef)
    (email : Option String) : Except Failure (AccountDb γ) :=
  match db.createUserRow fresh id (some uid) user email with
  | .error .validation =>
    match db.visible.authenticator? id with
    | none => .error .exception
    | some a =>
      if a.isLocal ∧ uid ≠ user.username then
        db.createUserRow fresh id (some user.username) user email
      else .error .validation
  | result => result

/-- Adding the associations of a value, one after the other. -/
def addItems (fresh : γ) (user : UserRef) :
    AccountDb γ → List (String × Json) → Except Failure (AccountDb γ)
  | db, [] => .ok db
  | db, (key, details) :: rest =>
    match details.asDict? with
    | none => .error .exception
    | some details =>
      match details.value? "uid" with
      | none => addItems fresh user db rest
      | some (.str uid) =>
        match pyInt key, DbText.ofString? uid, details.value? "email" with
        | some (.ofNat id), some uid, none => do
          let db ← db.addFromAssociatedField fresh id uid user none
          addItems fresh user db rest
        | some (.ofNat id), some uid, some (.str email) => do
          let db ← db.addFromAssociatedField fresh id uid user (some email)
          addItems fresh user db rest
        | _, _, _ => .error .exception
      | some _ => .error .exception

/-- The tables when the associations of the user are removed and nothing is added yet. -/
def cleared (user : UserRef) (items : List (String × Json)) : AccountDb γ :=
  (db.removeAuthenticators ((db.visible.rowsOf user.pk).map AuthenticatorUser.provider)
    user.pk).setEmail user.pk (AssociationDb.firstEmail? items)

/-- `_process_associated_authenticators_field`. -/
def processAssociated (fresh : γ) (user : UserRef) (value : Dict Json) :
    Except Failure (AccountDb γ) :=
  match db.visible.validateConflicts user.pk value.items with
  | none => .error .exception
  | some (_ :: _) => .error .validation
  | some [] => addItems fresh user (db.cleared user value.items) value.items

/-- Saving the user with its username. -/
def setUsername (user : ℕ) (username : DbText) : AccountDb γ :=
  { db with visible := db.visible.setUsername user username }

/-- An update with the new field, without the deprecated ones and without an e-mail. -/
def updateField (fresh : γ) (stored : StoredUser) (username : Option DbText) (value : Dict Json) :
    Except Failure (AccountDb γ) := do
  let username := username.getD (db.visible.usernames stored.pk)
  let db ← db.processAssociated fresh ⟨stored.pk, username⟩ value
  return db.setUsername stored.pk username

/-! ## The hidden columns -/

/-- Rows are only added, with new keys and fresh hidden columns. -/
structure Adds (fresh : γ) (db db' : AccountDb γ) : Prop where
  rows : ∀ r ∈ db'.rows, r ∈ db.rows ∨ db.nextPk ≤ r.pk ∧ r.hidden = fresh
  nextPk : db.nextPk ≤ db'.nextPk
  emails : db'.visible.emails = db.visible.emails

/-- A function with the hidden columns is one without them, and only adds rows. -/
def Lifts (fresh : γ) (db : AccountDb γ) (result : Except Failure (AccountDb γ))
    (visible : Except Failure AssociationDb) : Prop :=
  result.map AccountDb.visible = visible ∧ ∀ db', result = .ok db' → Adds fresh db db'

variable {db} {fresh : γ} {db' : AccountDb γ}

theorem Adds.refl (fresh : γ) (db : AccountDb γ) : Adds fresh db db :=
  ⟨fun _ hr => Or.inl hr, le_rfl, rfl⟩

theorem Adds.trans {db'' : AccountDb γ} (h : Adds fresh db db') (h' : Adds fresh db' db'') :
    Adds fresh db db'' where
  rows r hr := by
    rcases h'.rows r hr with hr | ⟨hpk, hhidden⟩
    · exact h.rows r hr
    · exact Or.inr ⟨h.nextPk.trans hpk, hhidden⟩
  nextPk := h.nextPk.trans h'.nextPk
  emails := h'.emails.trans h.emails

/-- One function after the other. -/
theorem Lifts.bind {result : Except Failure (AccountDb γ)} {visible : Except Failure AssociationDb}
    {next : AccountDb γ → Except Failure (AccountDb γ)}
    {nextVisible : AssociationDb → Except Failure AssociationDb} (h : Lifts fresh db result visible)
    (hnext : ∀ db', Lifts fresh db' (next db') (nextVisible db'.visible)) :
    Lifts fresh db (result >>= next) (visible >>= nextVisible) := by
  obtain ⟨rfl, hadds⟩ := h
  cases result with
  | error e => exact ⟨rfl, fun _ hok => nomatch hok⟩
  | ok db₁ =>
      refine ⟨(hnext db₁).1, fun db₂ hok => ?_⟩
      exact (hadds db₁ rfl).trans ((hnext db₁).2 db₂ hok)

/-- A failure. -/
theorem lifts_error (e : Failure) : Lifts fresh db (.error e) (.error e) :=
  ⟨rfl, fun _ hok => nomatch hok⟩

/-- Creating a row leaves the e-mails. -/
theorem emails_of_createRow {db db' : AssociationDb} {row : AuthenticatorUser}
    (h : db.createRow row = some db') : db'.emails = db.emails := by
  unfold AssociationDb.createRow at h
  split at h
  · rw [← Option.some.inj h]
  · cases h

theorem lifts_insertRow (row : AuthenticatorUser) :
    Lifts fresh db (db.insertRow fresh row) (db.visible.insertRow row) := by
  unfold insertRow
  split
  · rename_i visible hcreate
    have hvisible : db.visible.insertRow row = .ok visible := by
      rw [AssociationDb.insertRow, hcreate]
    rw [hvisible]
    refine ⟨rfl, fun db' hok => ?_⟩
    rw [← Except.ok.inj hok]
    refine ⟨fun r hr => ?_, Nat.le_succ _, emails_of_createRow hcreate⟩
    rcases List.mem_append.mp hr with hr | hr
    · exact Or.inl hr
    · rw [List.mem_singleton.mp hr]
      exact Or.inr ⟨le_rfl, rfl⟩
  · rename_i hcreate
    rw [AssociationDb.insertRow, hcreate]
    exact lifts_error _

theorem lifts_createUserRow (id : ℕ) (uid : Option DbText) (user : UserRef)
    (email : Option String) :
    Lifts fresh db (db.createUserRow fresh id uid user email)
      (db.visible.createUserRow id uid user email) := by
  unfold createUserRow AssociationDb.createUserRow
  cases db.visible.authenticator? id with
  | none => exact lifts_error _
  | some a =>
      dsimp only
      split
      · exact lifts_error _
      · cases db.visible.writtenUid a.id user.username uid with
        | none => exact lifts_error _
        | some uid => exact lifts_insertRow _

theorem lifts_addFromAssociatedField (id : ℕ) (uid : DbText) (user : UserRef)
    (email : Option String) :
    Lifts fresh db (db.addFromAssociatedField fresh id uid user email)
      (db.visible.addFromAssociatedField id uid user email) := by
  have hfirst := @lifts_createUserRow γ db fresh id (some uid) user email
  have hsecond := @lifts_createUserRow γ db fresh id (some user.username) user email
  unfold addFromAssociatedField AssociationDb.addFromAssociatedField
  rw [← hfirst.1]
  cases hcreate : db.createUserRow fresh id (some uid) user email with
  | ok db' =>
      rw [hcreate] at hfirst
      exact ⟨rfl, hfirst.2⟩
  | error e =>
      cases e with
      | validation =>
          dsimp only [Except.map]
          cases db.visible.authenticator? id with
          | none => exact lifts_error _
          | some a =>
              dsimp only
              split
              · exact hsecond
              · exact lifts_error _
      | _ => exact lifts_error _

theorem lifts_addItems (user : UserRef) (items : List (String × Json)) (db : AccountDb γ) :
    Lifts fresh db (addItems fresh user db items)
      (AssociationDb.addItems user db.visible items) := by
  induction items generalizing db with
  | nil => exact ⟨rfl, fun db' hok => Except.ok.inj hok ▸ Adds.refl fresh db⟩
  | cons item items ih =>
      obtain ⟨key, details⟩ := item
      unfold addItems AssociationDb.addItems
      cases details.asDict? with
      | none => exact lifts_error _
      | some details =>
          have hadd : ∀ id uid email, Lifts fresh db
              (db.addFromAssociatedField fresh id uid user email >>= fun db =>
                addItems fresh user db items)
              (db.visible.addFromAssociatedField id uid user email >>= fun db =>
                AssociationDb.addItems user db items) :=
            fun id uid email => (lifts_addFromAssociatedField id uid user email).bind ih
          dsimp only
          cases details.value? "uid" with
          | none => exact ih db
          | some v =>
              cases v with
              | str uid =>
                  -- the key is a number, and the e-mail absent, null or a text
                  dsimp only
                  cases pyInt key with
                  | none => exact lifts_error _
                  | some number =>
                      cases number with
                      | negSucc _ => exact lifts_error _
                      | ofNat id =>
                          cases DbText.ofString? uid with
                          | none => exact lifts_error _
                          | some uid =>
                              cases details.value? "email" with
                              | none => exact hadd id uid none
                              | some email =>
                                  cases email with
                                  | str email => exact hadd id uid (some email)
                                  | _ => exact lifts_error _
              | _ => exact lifts_error _

/-- Removing associations is removing them without the hidden columns. -/
theorem visible_cleared (db : AccountDb γ) (user : UserRef) (items : List (String × Json)) :
    (db.cleared user items).visible = db.visible.cleared user items := by
  have hremove : ∀ (ids : List ℕ) (current : AccountDb γ),
      (current.removeAuthenticators ids user.pk).visible =
        current.visible.removeAuthenticators ids user.pk := by
    intro ids
    induction ids with
    | nil => exact fun _ => rfl
    | cons id ids ih => exact fun current => ih _
  show (AssociationDb.setEmail _ user.pk _) = _
  rw [hremove]
  rfl

/-- Without the hidden columns the update is that of `AssociationDb`. -/
theorem visible_updateField (determine : AuthenticatorUser → DbText) (stored : StoredUser)
    (username : Option DbText) (value : Dict Json) :
    (db.updateField fresh stored username value).map AccountDb.visible =
      db.visible.update determine stored ⟨username, none, none, some value⟩ := by
  have hprocess : ∀ user : UserRef, (db.processAssociated fresh user value).map AccountDb.visible =
      db.visible.processAssociated user value := by
    intro user
    unfold processAssociated AssociationDb.processAssociated
    match db.visible.validateConflicts user.pk value.items with
    | none => rfl
    | some (_ :: _) => rfl
    | some [] =>
        dsimp only
        rw [← visible_cleared]
        exact (lifts_addItems user value.items _).1
  have hupdate : db.visible.update determine stored ⟨username, none, none, some value⟩ =
      (db.visible.processAssociated ⟨stored.pk, username.getD (db.visible.usernames stored.pk)⟩
        value).map fun processed => processed.setUsername stored.pk
          (username.getD (db.visible.usernames stored.pk)) := by
    -- a new username goes to the uids only without the field
    have hrename : db.visible.updateUsername determine stored
        (username.getD (db.visible.usernames stored.pk)) ⟨username, none, none, some value⟩ =
        .ok (db.visible, { db.visible.load stored with
          username := username.getD (db.visible.usernames stored.pk) }) :=
      if_neg fun h => nomatch h.2
    show (db.visible.updateUsername determine stored
      (username.getD (db.visible.usernames stored.pk)) _ >>= _) = _
    rw [hrename]
    show (db.visible.processAssociated
      ⟨stored.pk, username.getD (db.visible.usernames stored.pk)⟩ value >>= _) = _
    cases db.visible.processAssociated ⟨stored.pk,
      username.getD (db.visible.usernames stored.pk)⟩ value <;> rfl
  rw [hupdate, ← hprocess]
  show (db.processAssociated fresh
    ⟨stored.pk, username.getD (db.visible.usernames stored.pk)⟩ value >>= _).map _ = _
  cases db.processAssociated fresh ⟨stored.pk, username.getD (db.visible.usernames stored.pk)⟩
    value <;> rfl

/-! ## What is left of the rows -/

/-- The rows without the hidden columns. -/
theorem mem_visible_rowsOf {user : ℕ} {row : AuthenticatorUser} :
    row ∈ db.visible.rowsOf user ↔ ∃ r ∈ db.rowsOf user, r.toAuthenticatorUser = row := by
  unfold AssociationDb.rowsOf rowsOf
  rw [← db.rows_visible]
  constructor
  · intro hrow
    obtain ⟨hmem, huser⟩ := List.mem_filter.mp hrow
    obtain ⟨r, hr, rfl⟩ := List.mem_map.mp hmem
    exact ⟨r, List.mem_filter.mpr ⟨hr, huser⟩, rfl⟩
  · rintro ⟨r, hr, rfl⟩
    obtain ⟨hmem, huser⟩ := List.mem_filter.mp hr
    exact List.mem_filter.mpr ⟨List.mem_map_of_mem hmem, huser⟩

/-- Removing associations leaves the key of the next row. -/
theorem nextPk_cleared (db : AccountDb γ) (user : UserRef) (items : List (String × Json)) :
    (db.cleared user items).nextPk = db.nextPk := by
  have hremove : ∀ (ids : List ℕ) (current : AccountDb γ),
      (current.removeAuthenticators ids user.pk).nextPk = current.nextPk := by
    intro ids
    induction ids with
    | nil => exact fun _ => rfl
    | cons id ids ih => exact fun current => ih _
  exact hremove _ db

/-- The e-mail of the user when its associations are removed. -/
theorem emails_cleared (db : AssociationDb) (user : UserRef) (items : List (String × Json)) :
    (db.cleared user items).emails user.pk =
      (AssociationDb.firstEmail? items).getD (db.emails user.pk) := by
  have hremove : ∀ (ids : List ℕ) (current : AssociationDb),
      (current.removeAuthenticators ids user.pk).emails = current.emails := by
    intro ids
    induction ids with
    | nil => exact fun _ => rfl
    | cons id ids ih => exact fun current => ih _
  unfold AssociationDb.cleared
  cases AssociationDb.firstEmail? items with
  | none => exact congrFun (hremove _ db) user.pk
  | some email => exact Function.update_self ..

/-- After an update every row of the user is new, and the first e-mail of the value is the
user's. -/
theorem updateField_eq_ok {stored : StoredUser} {username : Option DbText} {value : Dict Json}
    (hok : db.updateField fresh stored username value = .ok db') :
    (∀ r ∈ db'.rowsOf stored.pk, db.nextPk ≤ r.pk ∧ r.hidden = fresh) ∧
      db'.visible.emails stored.pk =
        (AssociationDb.firstEmail? value.items).getD (db.visible.emails stored.pk) := by
  -- The username is stored after the rows, by a write of its own.
  have hprocess : ∃ applied, db.processAssociated fresh
      ⟨stored.pk, username.getD (db.visible.usernames stored.pk)⟩ value = .ok applied ∧
      db' = applied.setUsername stored.pk (username.getD (db.visible.usernames stored.pk)) := by
    change (db.processAssociated fresh
      ⟨stored.pk, username.getD (db.visible.usernames stored.pk)⟩ value >>= _) = _ at hok
    cases hresult : db.processAssociated fresh
      ⟨stored.pk, username.getD (db.visible.usernames stored.pk)⟩ value with
    | error e => rw [hresult] at hok; cases hok
    | ok applied => rw [hresult] at hok; exact ⟨applied, rfl, (Except.ok.inj hok).symm⟩
  obtain ⟨applied, happlied, rfl⟩ := hprocess
  generalize username.getD (db.visible.usernames stored.pk) = name at happlied ⊢
  unfold processAssociated at happlied
  split at happlied
  · cases happlied
  · cases happlied
  -- The two failures store nothing; otherwise all rows of the user are new.
  · obtain ⟨hrows, -, hemails⟩ := (lifts_addItems _ _ _).2 applied happlied
    constructor
    · intro r hr
      obtain ⟨hmem, huser⟩ := List.mem_filter.mp hr
      rcases hrows r hmem with hkept | hnew
      · -- no row of the user is left when rows are added
        have hvisible : r.toAuthenticatorUser ∈
            (db.cleared ⟨stored.pk, name⟩ value.items).visible.rows := by
          rw [← AccountDb.rows_visible]
          exact List.mem_map_of_mem hkept
        rw [visible_cleared] at hvisible
        exact absurd (of_decide_eq_true huser) (AssociationDb.mem_rows_cleared.mp hvisible).2
      · rwa [nextPk_cleared] at hnew
    · show applied.visible.emails stored.pk = _
      rw [hemails, visible_cleared]
      exact emails_cleared db.visible ⟨stored.pk, name⟩ value.items

/-- The user has the same rows, and the same e-mail. -/
def KeepsRows (db db' : AccountDb γ) (user : ℕ) : Prop :=
  (∀ r, r ∈ db'.rowsOf user ↔ r ∈ db.rowsOf user) ∧
    db'.visible.emails user = db.visible.emails user

/-- The user has rows with the same columns, but perhaps other keys, and the same e-mail. -/
def KeepsContents (db db' : AccountDb γ) (user : ℕ) : Prop :=
  (∀ (row : AuthenticatorUser) (hidden : γ),
    (∃ r ∈ db'.rowsOf user, r.toAuthenticatorUser = row ∧ r.hidden = hidden) ↔
      ∃ r ∈ db.rowsOf user, r.toAuthenticatorUser = row ∧ r.hidden = hidden) ∧
    db'.visible.emails user = db.visible.emails user

/-- New rows are like those of the user: nothing is in the hidden columns, no e-mail is empty, there
is one row for each authenticator and at a local one it has the username. -/
def LikeNew (db : AccountDb γ) (fresh : γ) (user : UserRef) : Prop :=
  (∀ r ∈ db.rowsOf user.pk, r.hidden = fresh ∧ r.email ≠ some "") ∧ db.visible.Reproduced user

/-- The request is accepted: it is valid, and it is applied without a failure. -/
def AcceptsField (db : AccountDb γ) (fresh : γ) (validators : UserValidators) (superuser : Bool)
    (action : Action) (stored : StoredUser) (otherErrors : List String) (payload : UserPayload)
    (db' : AccountDb γ) : Prop :=
  ∃ data value, db.visible.runValidation validators superuser action stored.pk otherErrors payload =
      .valid data ∧ data.associatedAuthenticators = some value ∧
    db.updateField fresh stored data.username value = .ok db'

/-- The entries of a value on record are those on record. -/
theorem entriesOf_eq {db : AssociationDb} {user : ℕ} {value : Dict Json}
    {entries : List (ℕ × Details)} (h : List.Forall₂ AssociationDb.MatchesEntry value.items entries)
    (hentries : ∀ entry ∈ entries, entry ∈ db.getAssociatedAuthenticators user) :
    entriesOf value = entries.map fun entry => ⟨entry.1, entry.2.uid, entry.2.email⟩ := by
  unfold entriesOf
  generalize value.items = items at h ⊢
  induction h with
  | nil => rfl
  | cons hitem _ ih =>
      rw [List.forall_mem_cons] at hentries
      have hread := (AssociationDb.reads_of_matches hentries.1 hitem).readEntry_eq
      rw [List.filterMap_cons_some hread, List.map_cons, ih hentries.2]

/-- An entry on record is created as `recreated` says. -/
theorem entryRow_eq_recreated (db : AssociationDb) (user : UserRef) (entry : ℕ × Details) :
    db.entryRow user ⟨entry.1, entry.2.uid, entry.2.email⟩ = db.recreated user entry := by
  unfold AssociationDb.entryRow AssociationDb.recreated
  by_cases hlocal : db.isLocalAt entry.1 = true
  · by_cases hsame : entry.2.uid = user.username
    · simp [hlocal, hsame]
    · simp [hlocal, hsame]
  · simp [hlocal]

/-- The value on record is applied by recreating a row for each of its entries. -/
theorem mem_rowsOf_of_record {validators : UserValidators} {superuser : Bool} {action : Action}
    {stored : StoredUser} {otherErrors : List String} {username : Option DbText} {value : Json}
    (hrecord : AssociationDb.matchesRecord
      (db.visible.getAssociatedAuthenticators stored.pk) value = true)
    (h : db.AcceptsField fresh validators superuser action stored otherErrors
      ⟨username, none, none, some value⟩ db') :
    ∃ submitted : Dict Json, value.asDict? = some submitted ∧
      (∀ r, r ∈ db'.visible.rowsOf stored.pk ↔
        ∃ entry ∈ db.visible.getAssociatedAuthenticators stored.pk,
          r = db.visible.recreated
            ⟨stored.pk, username.getD (db.visible.usernames stored.pk)⟩ entry) ∧
      (∀ r ∈ db'.rowsOf stored.pk, db.nextPk ≤ r.pk ∧ r.hidden = fresh) ∧
      db'.visible.emails stored.pk =
        (AssociationDb.firstEmail? submitted.items).getD (db.visible.emails stored.pk) := by
  obtain ⟨data, field, hvalid, hfield, hok⟩ := h
  have hsound := AssociationDb.sound_of_valid hvalid
  obtain ⟨given, husername, hgivenAuthenticators, -, hassociated, -, hvalidate⟩ :=
    AssociationDb.valid_of_runValidation hvalid
  obtain ⟨-, hcompleted, -⟩ := AssociationDb.valid_of_validate hvalidate
  obtain rfl := (AssociationDb.completed_eq hcompleted).2
    (Stage.valid.inj hgivenAuthenticators).symm
  -- the value that is applied is the dictionary that is sent
  obtain ⟨submitted, hsubmitted⟩ : ∃ submitted, value.asDict? = some submitted := by
    unfold AssociationDb.matchesRecord at hrecord
    split at hrecord
    · cases hrecord
    · exact ⟨_, ‹_›⟩
  have hsame : field = submitted := by
    rcases AssociationDb.optional_eq_valid hassociated with
      ⟨hnone, -⟩ | ⟨json, applied, hjson, hone, hsome⟩
    · cases hnone
    · obtain rfl := Option.some.inj hjson
      obtain rfl := Option.some.inj (hfield.symm.trans hsome)
      rcases AssociationDb.valid_cases hone with ⟨hfalsy, rfl⟩ | ⟨-, hdict, -⟩ | ⟨-, hdict, -⟩
      · exact Dict.ext (AssociationDb.items_eq_nil_of_not_truthy hsubmitted hfalsy).symm
      · exact Option.some.inj (hdict.symm.trans hsubmitted)
      · exact Option.some.inj (hdict.symm.trans hsubmitted)
  obtain rfl := hsame
  obtain ⟨hnew, hemails⟩ := updateField_eq_ok hok
  refine ⟨field, hsubmitted, fun r => ?_, hnew, hemails⟩
  obtain ⟨entries, hmatch, -, hmem⟩ := AssociationDb.exists_entries hsubmitted hrecord
  have hvisible : db.visible.update AuthenticatorUser.uid stored
      ⟨data.username, none, none, some field⟩ = .ok db'.visible := by
    rw [← visible_updateField, hok]
    rfl
  have hrows : db'.visible.rowsOf stored.pk = (entriesOf field).map (db.visible.entryRow
      ⟨stored.pk, data.username.getD (db.visible.usernames stored.pk)⟩) :=
    AssociationDb.rowsOf_update (fun value hvalue =>
      hsound value (hfield.trans hvalue)) rfl hvisible
  have hname : data.username = username := husername
  rw [hrows, entriesOf_eq hmatch fun entry hentry => (hmem entry).mp hentry, List.map_map, hname,
    List.mem_map]
  refine exists_congr fun entry => and_congr (hmem entry) ?_
  rw [Function.comp_apply, entryRow_eq_recreated]
  exact eq_comm

/-- Where the rows are like new ones, an entry is recreated as the row that it is from. -/
theorem recreated_eq_of_likeNew {user : UserRef} (hlike : db.LikeNew fresh user)
    {entry : ℕ × Details} (hentry : entry ∈ db.visible.getAssociatedAuthenticators user.pk)
    {r : AuthenticatorUser} (hr : r ∈ db.visible.rowsOf user.pk) (hprovider : r.provider = entry.1)
    (hdetails : r.details = entry.2) : db.visible.recreated user entry = r := by
  have hkept := AssociationDb.details_recreated_of_reproduced hlike.2 hentry
  obtain ⟨full, hfull, rfl⟩ := mem_visible_rowsOf.mp hr
  have huid := congrArg Details.uid (hkept.trans hdetails.symm)
  have hemail : entry.2.email = full.email := by
    rw [← hdetails]
    have hne := (hlike.1 full hfull).2
    show full.email.filter (· ≠ "") = full.email
    cases hcase : full.email with
    | none => rfl
    | some email => simpa [Option.filter, hcase] using hne
  have huser := (AssociationDb.mem_rowsOf.mp hr).2
  have hsame : db.visible.recreated user entry =
      ⟨full.provider, full.user, full.uid, full.email⟩ := by
    rw [AuthenticatorUser.mk.injEq]
    exact ⟨hprovider.symm, huser.symm, huid, hemail⟩
  exact hsame

/-- The visible rows after are then those before. -/
theorem mem_visible_iff_of_likeNew {user : UserRef} (hlike : db.LikeNew fresh user)
    (hrows : ∀ r, r ∈ db'.visible.rowsOf user.pk ↔
      ∃ entry ∈ db.visible.getAssociatedAuthenticators user.pk,
        r = db.visible.recreated user entry) (row : AuthenticatorUser) :
    row ∈ db'.visible.rowsOf user.pk ↔ row ∈ db.visible.rowsOf user.pk := by
  rw [hrows]
  constructor
  · rintro ⟨entry, hentry, rfl⟩
    obtain ⟨r, hr, hprovider, hdetails⟩ := AssociationDb.exists_row_of_entry hentry
    rwa [recreated_eq_of_likeNew hlike hentry hr hprovider hdetails]
  · intro hrow
    obtain ⟨entry, hentry, hkey⟩ := AssociationDb.exists_entry_of_row hrow
    obtain ⟨r, hr, hprovider, hdetails⟩ := AssociationDb.exists_row_of_entry hentry
    obtain rfl := hlike.2.1 r hr row hrow (hprovider.trans hkey)
    exact ⟨entry, hentry, (recreated_eq_of_likeNew hlike hentry hr hprovider hdetails).symm⟩

/-- A recreated row has no empty e-mail. -/
theorem email_ne_empty_of_recreated {user : UserRef} {entry : ℕ × Details}
    (hentry : entry ∈ db.visible.getAssociatedAuthenticators user.pk) {r : AuthenticatorUser}
    (h : r = db.visible.recreated user entry) : r.email ≠ some "" := by
  obtain ⟨o, -, -, hdetails⟩ := AssociationDb.exists_row_of_entry hentry
  have hemail : r.email = o.email.filter (· ≠ "") := by
    have hsame : r.email = entry.2.email := congrArg AuthenticatorUser.email h
    rw [hsame, ← hdetails]
    rfl
  rw [hemail]
  intro hempty
  exact absurd rfl (of_decide_eq_true (Option.filter_eq_some_iff.mp hempty).2)

/-- Recreated rows are the rows that were there exactly if these were like new. -/
theorem contents_iff_likeNew {user : UserRef}
    (hrows : ∀ r, r ∈ db'.visible.rowsOf user.pk ↔
      ∃ entry ∈ db.visible.getAssociatedAuthenticators user.pk,
        r = db.visible.recreated user entry)
    (hnew : ∀ r ∈ db'.rowsOf user.pk, db.nextPk ≤ r.pk ∧ r.hidden = fresh) :
    (∀ (row : AuthenticatorUser) (hidden : γ),
      (∃ r ∈ db'.rowsOf user.pk, r.toAuthenticatorUser = row ∧ r.hidden = hidden) ↔
        ∃ r ∈ db.rowsOf user.pk, r.toAuthenticatorUser = row ∧ r.hidden = hidden) ↔
      db.LikeNew fresh user := by
  constructor
  · intro hcontents
    -- What the serializer shows follows from the columns that it shows.
    have hvisible : ∀ row, row ∈ db'.visible.rowsOf user.pk ↔ row ∈ db.visible.rowsOf user.pk := by
      intro row
      rw [mem_visible_rowsOf, mem_visible_rowsOf]
      constructor
      · rintro ⟨r, hr, hrow⟩
        obtain ⟨r', hr', hrow', -⟩ := (hcontents row r.hidden).mp ⟨r, hr, hrow, rfl⟩
        exact ⟨r', hr', hrow'⟩
      · rintro ⟨r, hr, hrow⟩
        obtain ⟨r', hr', hrow', -⟩ := (hcontents row r.hidden).mpr ⟨r, hr, hrow, rfl⟩
        exact ⟨r', hr', hrow'⟩
    refine ⟨fun r hr => ?_, (AssociationDb.unchanged_iff_reproduced hrows).mp ?_⟩
    · obtain ⟨r', hr', hrow, hhidden⟩ := (hcontents _ _).mpr ⟨r, hr, rfl, rfl⟩
      obtain ⟨entry, hentry, hrecreated⟩ := (hrows r.toAuthenticatorUser).mp
        ((hvisible _).mpr (mem_visible_rowsOf.mpr ⟨r, hr, rfl⟩))
      exact ⟨hhidden.symm.trans (hnew r' hr').2, email_ne_empty_of_recreated hentry hrecreated⟩
    · intro provider d
      unfold AssociationDb.Associated
      simp only [hvisible]
  · intro hlike row hidden
    have hvisible := mem_visible_iff_of_likeNew hlike hrows row
    rw [mem_visible_rowsOf, mem_visible_rowsOf] at hvisible
    constructor
    · rintro ⟨r, hr, hrow, rfl⟩
      obtain ⟨r', hr', hrow'⟩ := hvisible.mp ⟨r, hr, hrow⟩
      exact ⟨r', hr', hrow', (hlike.1 r' hr').1.trans (hnew r hr).2.symm⟩
    · rintro ⟨r, hr, hrow, rfl⟩
      obtain ⟨r', hr', hrow'⟩ := hvisible.mpr ⟨r, hr, hrow⟩
      exact ⟨r', hr', hrow', (hnew r' hr').2.trans (hlike.1 r hr).1.symm⟩

end AccountDb

open AccountDb

/-- For every user and requester, and every accepted update whose new field is the value on record
and which has no deprecated field and no e-mail: the rows are the same exactly if the user has none;
and apart from their keys the rows are the same exactly if they are like new. In both cases the
e-mail is the same exactly if the value has none or its first one is the user's. -/
theorem resubmission_iff (db : AccountDb γ) (fresh : γ) (validators : UserValidators)
    (superuser : Bool) (action : Action) (stored : StoredUser) (otherErrors : List String)
    (username : Option DbText) (value : Json) (db' : AccountDb γ)
    (hrecord : AssociationDb.matchesRecord
      (db.visible.getAssociatedAuthenticators stored.pk) value = true)
    (h : db.AcceptsField fresh validators superuser action stored otherErrors
      ⟨username, none, none, some value⟩ db') :
    ∃ submitted : Dict Json, value.asDict? = some submitted ∧
      (db.KeepsRows db' stored.pk ↔ db.rowsOf stored.pk = []) ∧
      (db.KeepsContents db' stored.pk ↔
        db.LikeNew fresh ⟨stored.pk, username.getD (db.visible.usernames stored.pk)⟩ ∧
          ∀ email, AssociationDb.firstEmail? submitted.items = some email →
            email = db.visible.emails stored.pk) := by
  obtain ⟨submitted, hsubmitted, hrows, hnew, hemails⟩ := mem_rowsOf_of_record hrecord h
  refine ⟨submitted, hsubmitted, ⟨fun hkeeps => ?_, fun hempty => ?_⟩, ?_⟩
  · -- a row that is kept would have a key that no row has yet
    refine List.eq_nil_iff_forall_not_mem.mpr fun r hr => ?_
    have hlt := db.pk_lt r (List.mem_filter.mp hr).1
    have hle := (hnew r ((hkeeps.1 r).mpr hr)).1
    omega
  · have hnone : ∀ entry, entry ∉ db.visible.getAssociatedAuthenticators stored.pk := by
      intro entry hentry
      obtain ⟨r, hr, -⟩ := AssociationDb.exists_row_of_entry hentry
      obtain ⟨full, hfull, -⟩ := mem_visible_rowsOf.mp hr
      rw [hempty] at hfull
      exact List.not_mem_nil hfull
    have hitems : submitted.items = [] := by
      refine List.eq_nil_iff_forall_not_mem.mpr fun item hitem => ?_
      obtain ⟨entry, hentry, -⟩ :=
        (AssociationDb.matches_of_matchesRecord hsubmitted hrecord).1 item hitem
      exact hnone entry hentry
    constructor
    · intro r
      rw [hempty]
      refine iff_of_false (fun hr => ?_) List.not_mem_nil
      obtain ⟨entry, hentry, -⟩ := (hrows _).mp (mem_visible_rowsOf.mpr ⟨r, hr, rfl⟩)
      exact hnone entry hentry
    · rw [hemails, hitems]
      rfl
  · have hcontents := @contents_iff_likeNew γ db fresh db'
      ⟨stored.pk, username.getD (db.visible.usernames stored.pk)⟩ hrows hnew
    refine and_congr hcontents ?_
    rw [hemails]
    cases AssociationDb.firstEmail? submitted.items with
    | none => simp
    | some email => simp

/-! ## Lost columns -/

/-- A user without associations. -/
def noAccounts : AccountDb String where
  visible :=
    { authenticators := []
      usernames := ldapUser.usernames
      emails := fun _ => ""
      rows := []
      unique := by decide
      provider_mem := by decide }
  rows := []
  nextPk := 0
  rows_visible := rfl
  pk_lt := by simp

/-- The LDAP user, with the hidden columns of its row. -/
def ldapAccount (hidden : String) : AccountDb String where
  visible := ldapUser
  rows := ldapUser.rows.map fun row => { row with pk := 7, hidden }
  nextPk := 8
  rows_visible := rfl
  pk_lt := by simp

/-- The LDAP user's association on record is accepted from it. -/
theorem exists_acceptsField_ldapAccount (hidden : String) :
    ∃ db', (ldapAccount hidden).AcceptsField "" openValidators false .patch firstUser []
      (fieldPayload [uidItem "2" "uid"]) db' := by
  have htwo : pyInt "2" = some 2 := @pyInt_key 2 (by decide)
  have hvalid : ldapUser.runValidation openValidators false .patch firstUser.pk []
      (fieldPayload [uidItem "2" "uid"]) = .valid (fieldData [uidItem "2" "uid"]) := rfl
  have hentries : entriesOf (Dict.ofList [uidItem "2" "uid"]) = [⟨2, .lit "uid", none⟩] := by
    have hitems : (Dict.ofList [uidItem "2" "uid"]).items = [uidItem "2" "uid"] := rfl
    rw [entriesOf, hitems]
    unfold uidItem
    simp only [readEntry, List.filterMap, htwo]
    rfl
  have hfits : ldapUser.PlanFits firstUser.pk
      (ldapUser.updatePlan AuthenticatorUser.uid firstUser (fieldData [uidItem "2" "uid"])) := by
    have hplan : ldapUser.updatePlan AuthenticatorUser.uid firstUser
        (fieldData [uidItem "2" "uid"]) = ldapUser.associatedPlan ⟨1, .lit "user"⟩
          (entriesOf (Dict.ofList [uidItem "2" "uid"])) := rfl
    rw [hplan, hentries]
    have hforeign : ∀ k, ¬ldapUser.Foreign 1 k :=
      AssociationDb.not_foreign_of_forall (by decide)
    exact (AssociationDb.fits_associatedPlan_iff _ _ _ _).mpr
      ⟨fun _ _ => hforeign _, by decide, fun _ _ => hforeign _⟩
  have hsound : ldapUser.Sound firstUser.pk (fieldData [uidItem "2" "uid"]) :=
    AssociationDb.sound_of_valid hvalid
  obtain ⟨visible, hok⟩ := (AssociationDb.isOk_update_iff hsound).mpr hfits
  have hupdate := @visible_updateField String (ldapAccount hidden) "" AuthenticatorUser.uid
    firstUser none (Dict.ofList [uidItem "2" "uid"])
  cases hresult : (ldapAccount hidden).updateField "" firstUser none
      (Dict.ofList [uidItem "2" "uid"]) with
  | error e =>
      rw [hresult] at hupdate
      cases hupdate.trans hok
  | ok db' => exact ⟨db', _, _, hvalid, rfl, hresult⟩

/-- A user without associations keeps them when it sends none, and the LDAP user keeps the contents
of its row when nothing is in the hidden columns. -/
theorem resubmission_unchanged :
    (∃ db', noAccounts.AcceptsField "" openValidators false .patch firstUser []
      ⟨none, none, none, some (.obj [])⟩ db' ∧ noAccounts.KeepsRows db' 1) ∧
    ∃ db', (ldapAccount "").AcceptsField "" openValidators false .patch firstUser []
      (fieldPayload [uidItem "2" "uid"]) db' ∧ (ldapAccount "").KeepsContents db' 1 := by
  constructor
  · have haccepts : ∃ db', noAccounts.AcceptsField "" openValidators false .patch firstUser []
        ⟨none, none, none, some (.obj [])⟩ db' := ⟨_, _, _, rfl, rfl, rfl⟩
    obtain ⟨db', h⟩ := haccepts
    obtain ⟨-, -, hkeeps, -⟩ := resubmission_iff noAccounts "" openValidators false .patch firstUser
      [] none (.obj []) db' rfl h
    exact ⟨db', h, hkeeps.mpr rfl⟩
  · obtain ⟨db', h⟩ := exists_acceptsField_ldapAccount ""
    obtain ⟨submitted, hsubmitted, -, hcontents⟩ := resubmission_iff (ldapAccount "") ""
      openValidators false .patch firstUser [] none (.obj [uidItem "2" "uid"]) db' rfl h
    refine ⟨db', h, hcontents.mpr ⟨⟨?_, ?_, ?_⟩, ?_⟩⟩
    · intro row hrow
      rw [List.mem_singleton.mp hrow]
      exact ⟨rfl, by decide⟩
    · intro row hrow row' hrow' _
      rw [List.mem_singleton.mp hrow, List.mem_singleton.mp hrow']
    · -- the LDAP authenticator is not a local one
      intro row hrow hlocal
      rw [List.mem_singleton.mp hrow] at hlocal
      exact absurd hlocal (by decide)
    · rw [← Option.some.inj hsubmitted]
      exact fun _ hemail => nomatch hemail

/-- The LDAP user sends its association on record, and the claims of its last login are lost. -/
theorem not_resubmission_claims :
    AssociationDb.matchesRecord ((ldapAccount "claims").visible.getAssociatedAuthenticators 1)
        (.obj [uidItem "2" "uid"]) = true ∧
      ∃ db', (ldapAccount "claims").AcceptsField "" openValidators false .patch firstUser []
          (fieldPayload [uidItem "2" "uid"]) db' ∧
        ¬(ldapAccount "claims").KeepsContents db' 1 := by
  obtain ⟨db', h⟩ := exists_acceptsField_ldapAccount "claims"
  refine ⟨rfl, db', h, fun hkeeps => ?_⟩
  obtain ⟨data, value, -, -, hresult⟩ := h
  obtain ⟨r, hr, -, hhidden⟩ := (hkeeps.1 ⟨2, 1, .lit "uid", none⟩ "claims").mpr
    ⟨⟨⟨2, 1, .lit "uid", none⟩, 7, "claims"⟩, List.mem_singleton_self _, rfl, rfl⟩
  have hfresh := ((updateField_eq_ok hresult).1 r hr).2
  rw [hhidden] at hfresh
  exact absurd hfresh (by decide)

end AapGateway.Users
