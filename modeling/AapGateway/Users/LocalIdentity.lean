import AapGateway.Users.RoundTrip

/-!
# The uid at a local authenticator

At a local authenticator the uid of a user is the username, or the user could not log in. Each path
of a request that writes a uid there writes the username that the instance has in memory. With an
empty list of authenticators the instance is reloaded in between, and has the old username again
when the new field is applied.

## Main results

* `forall_legacyPlan`: the deprecated fields write the username of the instance at local
  authenticators;
* `localIdentity_iff`: when an accepted request keeps the uids at local authenticators in line with
  the username;
* `not_localIdentity_reload`: the reload between the fields.
-/

namespace AapGateway.Users

open UniqueWrites

namespace AssociationDb

/-- At a local authenticator the row has this uid. -/
def LocalUid (db : AssociationDb) (username : DbText) (r : AuthenticatorUser) : Prop :=
  db.isLocalAt r.provider = true → r.uid = username

/-- The rows of a user at local authenticators have the username as their uid. -/
def LocalIdentity (db : AssociationDb) (user : ℕ) : Prop :=
  ∀ r ∈ db.rowsOf user, db.LocalUid (db.usernames user) r

variable {db db' : AssociationDb}

/-! ## The deprecated fields -/

/-- Creating a row writes the username at a local authenticator. -/
theorem forall_createPlan (db : AssociationDb) (id : ℕ) (uid : Option DbText) (user : UserRef)
    (email : Option String) :
    ∀ w ∈ db.createPlan id uid user email, w.Keeps (db.LocalUid user.username) := by
  intro w hw
  unfold createPlan at hw
  split at hw
  · rw [List.mem_singleton.mp hw]
    trivial
  · rcases List.mem_append.mp hw with hcheck | hinsert
    · obtain ⟨uid, -, rfl⟩ := Option.map_eq_some_iff.mp (Option.mem_toList.mp hcheck)
      trivial
    · split at hinsert
      · rw [List.mem_singleton.mp hinsert]
        trivial
      · rename_i written hwritten
        rw [List.mem_singleton.mp hinsert]
        intro hlocal
        rw [writtenUid, if_pos hlocal] at hwritten
        exact (Option.some.inj hwritten).symm

/-- Setting uids writes the username at a local authenticator, if the uids that are set there are
the username. -/
theorem forall_savePlan {uidFor : AuthenticatorUser → Option DbText} {username : DbText}
    (h : ∀ r uid, uidFor r = some uid → db.isLocalAt r.provider = true → uid = username)
    (rows : List AuthenticatorUser) :
    ∀ w ∈ savePlan uidFor rows, w.Keeps (db.LocalUid username) := by
  intro w hw
  obtain ⟨r, -, hwrite⟩ := List.mem_filterMap.mp hw
  obtain ⟨uid, huid, rfl⟩ := Option.map_eq_some_iff.mp hwrite
  exact fun _ hlocal => h r uid huid hlocal

/-- `_update_authenticator_uids` sets the username at a local authenticator. -/
theorem eq_of_updatedUid {uid : Option DbText} {username written : DbText} {uids : List DbText}
    {r : AuthenticatorUser} (h : db.updatedUid uid username uids r = some written)
    (hlocal : db.isLocalAt r.provider = true) : written = username := by
  unfold updatedUid at h
  split at h
  · split at h
    · exact (Option.some.inj h).symm
    · cases h
  · rw [writtenUid, if_pos hlocal] at h
    exact (Option.some.inj h).symm

/-- `_update_legacy_authenticator_uid` writes the username at a local authenticator. -/
theorem forall_legacyUidPlan (db : AssociationDb) (uid : DbText) (user : UserInstance)
    (own : List AuthenticatorUser) :
    ∀ w ∈ db.legacyUidPlan uid user own, w.Keeps (db.LocalUid user.username) := by
  intro w hw
  unfold legacyUidPlan at hw
  split at hw
  · exact absurd hw List.not_mem_nil
  · rename_i target _
    split at hw
    · exact absurd hw List.not_mem_nil
    · rename_i r hrows
      have hprovider : r.provider = target := by
        have hmem : r ∈ own.filter (·.provider = target) := hrows ▸ List.mem_singleton_self r
        exact of_decide_eq_true (List.mem_filter.mp hmem).2
      dsimp only at hw
      generalize hwritten : (if db.isLocalAt target then user.username else uid) = written at hw
      split at hw
      · rw [List.mem_singleton.mp hw]
        intro _ hlocal
        have htarget : db.isLocalAt target = true := hprovider ▸ hlocal
        rw [← hwritten, if_pos htarget]
      · exact absurd hw List.not_mem_nil
    · rw [List.mem_singleton.mp hw]
      trivial

/-- Every write of the deprecated fields at a local authenticator writes the username that the
instance has. -/
theorem forall_legacyPlan (db : AssociationDb) (authenticators : Option (List Choice))
    (uid : Option DbText) (user : UserInstance) (own : List AuthenticatorUser) :
    ∀ w ∈ db.legacyPlan authenticators uid user own, w.Keeps (db.LocalUid user.username) := by
  have hadd : ∀ added, ∀ w ∈ db.addPlan uid user.toUserRef added,
      w.Keeps (db.LocalUid user.username) := by
    intro added w hw
    obtain ⟨choice, -, hchoice⟩ := List.mem_flatMap.mp hw
    cases choice with
    | blank =>
        rw [List.mem_singleton.mp hchoice]
        trivial
    | id n => exact db.forall_createPlan n uid user.toUserRef none w hchoice
  intro w hw
  unfold legacyPlan at hw
  split at hw
  · rw [List.mem_singleton.mp hw]
    trivial
  · rcases List.mem_append.mp hw with hexchange | huids
    · rcases List.mem_cons.mp hexchange with rfl | hadded
      · trivial
      · exact hadd _ w hadded
    · exact forall_savePlan (fun r written h hlocal => eq_of_updatedUid h hlocal) _ w huids
  · exact db.forall_legacyUidPlan _ user own w hw
  · exact absurd hw List.not_mem_nil

/-! ## A new username -/

/-- After setting uids every row is one that none is set for, or has the uid that is set. -/
theorem mem_after_savePlan {uidFor : AuthenticatorUser → Option DbText}
    {rows own : List AuthenticatorUser} {x : AuthenticatorUser}
    (h : x ∈ after own (savePlan uidFor rows)) :
    (x ∈ own ∧ (x ∈ rows → uidFor x = none)) ∨
      ∃ r ∈ rows, ∃ uid, uidFor r = some uid ∧ x = { r with uid } := by
  induction rows generalizing own with
  | nil => exact Or.inl ⟨h, fun hx => absurd hx List.not_mem_nil⟩
  | cons r rows ih =>
      cases huid : uidFor r with
      | none =>
          have hplan : savePlan uidFor (r :: rows) = savePlan uidFor rows := by
            simp [savePlan, huid]
          rw [hplan] at h
          rcases ih h with ⟨hx, hnone⟩ | ⟨r', hr', hset⟩
          · refine Or.inl ⟨hx, fun hmem => ?_⟩
            rcases List.mem_cons.mp hmem with rfl | hmem
            · exact huid
            · exact hnone hmem
          · exact Or.inr ⟨r', List.mem_cons_of_mem r hr', hset⟩
      | some uid =>
          have hplan : savePlan uidFor (r :: rows) =
              .replace r { r with uid } :: savePlan uidFor rows := by
            simp [savePlan, huid]
          rw [hplan, after_cons] at h
          rcases ih h with ⟨hx, hnone⟩ | ⟨r', hr', hset⟩
          · -- it was there before, or it is the row that is put in
            rcases List.mem_append.mp hx with hx | hx
            · obtain ⟨hown, hne⟩ := List.mem_filter.mp hx
              refine Or.inl ⟨hown, fun hmem => hnone ?_⟩
              exact (List.mem_cons.mp hmem).resolve_left (of_decide_eq_true hne)
            · exact Or.inr ⟨r, List.mem_cons_self, uid, huid, List.mem_singleton.mp hx⟩
          · exact Or.inr ⟨r', List.mem_cons_of_mem r hr', hset⟩

/-- After a new username the rows at local authenticators have it as their uid. -/
theorem forall_after_renamePlan {determine : AuthenticatorUser → DbText} {stored : StoredUser}
    {data : UserFields} (hidentity : db.LocalIdentity stored.pk)
    (hnone : data.associatedAuthenticators = none)
    (hdetermine : ∀ r ∈ db.rowsOf stored.pk, db.isLocalAt r.provider = true →
      determine r = db.newUsername stored data) :
    ∀ r ∈ after (db.rowsOf stored.pk) (db.renamePlan determine stored data),
      db.LocalUid (db.newUsername stored data) r := by
  intro x hx hlocal
  unfold renamePlan at hx
  split at hx
  · rcases mem_after_savePlan hx with ⟨hown, hkept⟩ | ⟨r, hr, uid, huid, rfl⟩
    · -- no local row is kept
      have hnotSet := hkept hown
      rw [localUid, if_pos hlocal] at hnotSet
      cases hnotSet
    · rw [localUid, if_pos hlocal] at huid
      rw [← Option.some.inj huid]
      exact hdetermine r hr hlocal
  · rename_i hrenames
    have hsame : db.usernames stored.pk = db.newUsername stored data := by
      by_contra hne
      exact hrenames ⟨hne, hnone⟩
    rw [← hsame]
    exact hidentity x hx hlocal

/-! ## Requests -/

/-- The username and the local authenticators after a request. -/
theorem perform_eq_ok {determine : AuthenticatorUser → DbText} {action : Action}
    {stored : StoredUser} {data : UserFields} (hsound : db.Sound stored.pk data)
    (hok : db.perform determine action stored data = .ok db') :
    db'.usernames stored.pk = db.usernameAfter action stored data ∧
      ∀ provider, db'.isLocalAt provider = db.isLocalAt provider := by
  have hupdate : db.update determine stored data = .ok db' →
      db'.usernames stored.pk = db.newUsername stored data ∧
        ∀ provider, db'.isLocalAt provider = db.isLocalAt provider := by
    intro hok
    obtain ⟨result, hresult, hrealizes⟩ := db.realizes_update determine hsound
    rw [hok] at hresult
    cases result with
    | error e => cases hresult
    | ok applied =>
        obtain rfl := Except.ok.inj hresult
        exact ⟨Function.update_self .., fun provider => hrealizes.of_ok.2.2.isLocalAt provider⟩
  cases action with
  | create =>
      have hrealizes := db.realizes_create stored.pk hsound
      have hcreate : db.create stored.pk data = .ok db' := hok
      rw [hcreate] at hrealizes
      obtain ⟨-, -, hsame⟩ := hrealizes.of_ok
      refine ⟨?_, fun provider => hsame.isLocalAt provider⟩
      rw [hsame.usernames]
      exact Function.update_self ..
  | put => exact hupdate hok
  | patch => exact hupdate hok

/-- Without the new field, the rows after a request have the new username at local
authenticators. -/
theorem forall_rowsOf_of_noField {determine : AuthenticatorUser → DbText} {action : Action}
    {stored : StoredUser} {data : UserFields} (hidentity : db.LocalIdentity stored.pk)
    (hcreated : action = .create → db.rowsOf stored.pk = [])
    (hnone : data.associatedAuthenticators = none)
    (hdetermine : ∀ r ∈ db.rowsOf stored.pk, db.isLocalAt r.provider = true →
      determine r = db.newUsername stored data)
    (hok : db.perform determine action stored data = .ok db') :
    ∀ r ∈ db'.rowsOf stored.pk, db.LocalUid (db.usernameAfter action stored data) r := by
  have hsound : db.Sound stored.pk data := by
    intro value hvalue
    rw [hnone] at hvalue
    cases hvalue
  have hupdate : db.update determine stored data = .ok db' →
      ∀ r ∈ db'.rowsOf stored.pk, db.LocalUid (db.newUsername stored data) r := by
    intro hok
    obtain ⟨result, hresult, hrealizes⟩ := db.realizes_update determine hsound
    rw [hok] at hresult
    cases result with
    | error e => cases hresult
    | ok applied =>
        obtain rfl := Except.ok.inj hresult
        obtain ⟨hfits, hrows, -⟩ := hrealizes.of_ok
        show ∀ r ∈ applied.rowsOf stored.pk, _
        rw [PlanFits, updatePlan, fits_append, requestPlan, hnone, List.append_nil] at hfits
        rw [hrows, updatePlan, after_append, requestPlan, hnone, List.append_nil]
        have husername : (db.renamedUser determine stored data).username =
            db.newUsername stored data := by
          unfold renamedUser
          split <;> rfl
        refine forall_mem_after (forall_after_renamePlan hidentity hnone hdetermine) hfits.2 ?_
        rw [← husername]
        exact db.forall_legacyPlan _ _ _ _
  cases action with
  | create =>
      have hrealizes := db.realizes_create stored.pk hsound
      have hcreate : db.create stored.pk data = .ok db' := hok
      rw [hcreate] at hrealizes
      obtain ⟨hfits, hrows, -⟩ := hrealizes.of_ok
      have hown :
          (db.setUsername stored.pk (data.username.getD DbText.empty)).rowsOf stored.pk = [] :=
        hcreated rfl
      have hempty : db.rowsOf stored.pk = [] := hcreated rfl
      rw [PlanFits, requestPlan, hnone, List.append_nil, hown, hempty] at hfits
      rw [hrows, requestPlan, hnone, List.append_nil, hown, hempty]
      exact forall_mem_after (fun r hr => absurd hr List.not_mem_nil) hfits
        (forall_legacyPlan _ _ _ (newUser stored.pk data) _)
  | put => exact hupdate hok
  | patch => exact hupdate hok

/-- With the new field, the rows after a request have the new username at local authenticators
exactly if the instance has it when the field is applied, or the field names no local authenticator.
-/
theorem forall_rowsOf_iff_of_field {determine : AuthenticatorUser → DbText} {action : Action}
    {stored : StoredUser} {data : UserFields} {value : Dict Json}
    (hsound : db.Sound stored.pk data) (hvalue : data.associatedAuthenticators = some value)
    (hok : db.perform determine action stored data = .ok db') :
    (∀ r ∈ db'.rowsOf stored.pk, db.LocalUid (db.usernameAfter action stored data) r) ↔
      (db.fieldUsername action stored data ≠ db.usernameAfter action stored data →
        ∀ e ∈ entriesOf value, db.isLocalAt e.provider = false) := by
  rw [rowsOf_perform hsound hvalue hok, List.forall_mem_map]
  constructor
  · intro h hne e he
    rw [Bool.eq_false_iff]
    intro hlocal
    have huid := h e he hlocal
    rw [entryRow, if_pos hlocal] at huid
    exact hne huid
  · intro h e he hlocal
    have hlocal' : db.isLocalAt e.provider = true := hlocal
    show (if db.isLocalAt e.provider then _ else _) = _
    rw [if_pos hlocal']
    by_contra hne
    have hnotLocal := h hne e he
    rw [hlocal'] at hnotLocal
    cases hnotLocal

/-- The instance is reloaded with the old username, and the new field then names a local
authenticator. -/
def ReloadsUsername (db : AssociationDb) (action : Action) (stored : StoredUser)
    (data : UserFields) : Prop :=
  action ≠ .create ∧ data.authenticators = some (some []) ∧
    db.usernames stored.pk ≠ db.usernameAfter action stored data ∧
    ∃ value, data.associatedAuthenticators = some value ∧
      ∃ e ∈ entriesOf value, db.isLocalAt e.provider = true

/-- When the instance has another username than the user in the end. -/
theorem fieldUsername_ne_iff {action : Action} {stored : StoredUser} {data : UserFields} :
    db.fieldUsername action stored data ≠ db.usernameAfter action stored data ↔
      action ≠ .create ∧ data.authenticators = some (some []) ∧
        db.usernames stored.pk ≠ db.usernameAfter action stored data := by
  unfold fieldUsername
  have hjoin : data.authenticators = some (some []) ↔ data.authenticators.join = some [] :=
    Option.join_eq_some_iff.symm
  rw [hjoin, ← and_assoc]
  split
  · rename_i hreload
    exact (and_iff_right hreload).symm
  · rename_i hreload
    exact iff_of_false (fun hne => hne rfl) fun h => hreload h.1

end AssociationDb

open AssociationDb

/-- For every accepted request, from a state in which all rows at local authenticators have the
username of their owner as the uid, and with a username that no other user with rows has: the rows
of the user have it afterwards exactly if no reload of the old username comes before a local entry.
-/
theorem localIdentity_iff (db : AssociationDb) (validators : UserValidators)
    (determine : AuthenticatorUser → DbText) (superuser : Bool) (action : Action)
    (stored : StoredUser) (otherErrors : List String) (payload : UserPayload) (data : UserFields)
    (db' : AssociationDb) (hidentity : ∀ user, db.LocalIdentity user)
    (hcreated : action = .create → db.rowsOf stored.pk = [])
    (hunique : ∀ r ∈ db.rows, r.user ≠ stored.pk →
      db.usernames r.user ≠ db.usernameAfter action stored data)
    (hdetermine : ∀ r ∈ db.rowsOf stored.pk,
      ¬db.Foreign stored.pk (r.provider, db.usernameAfter action stored data) →
        determine r = db.usernameAfter action stored data)
    (h : db.Accepts validators determine superuser action stored otherErrors payload data db') :
    db'.LocalIdentity stored.pk ↔ ¬db.ReloadsUsername action stored data := by
  obtain ⟨hvalid, hok⟩ := h
  have hsound := sound_of_valid hvalid
  obtain ⟨husername, hlocals⟩ := perform_eq_ok hsound hok
  have hidentity' : db'.LocalIdentity stored.pk ↔
      ∀ r ∈ db'.rowsOf stored.pk, db.LocalUid (db.usernameAfter action stored data) r := by
    unfold LocalIdentity LocalUid
    rw [husername]
    simp only [hlocals]
  rw [hidentity', ReloadsUsername]
  cases hvalue : data.associatedAuthenticators with
  | some value =>
      rw [forall_rowsOf_iff_of_field hsound hvalue hok, fieldUsername_ne_iff]
      simp only [Option.some.injEq, exists_eq_left', not_and, not_exists, Bool.not_eq_true, and_imp]
  | none =>
      refine iff_of_true ?_ ?_
      · refine forall_rowsOf_of_noField (hidentity stored.pk) hcreated hvalue ?_ hok
        intro r hr hlocal
        -- a local uid of another user is its username
        have hfree : ¬db.Foreign stored.pk (r.provider, db.usernameAfter action stored data) := by
          rintro ⟨o, ho, hother, hkey⟩
          obtain ⟨hprovider, huid⟩ := Prod.mk.inj hkey
          have howner := hidentity o.user o (mem_rowsOf.mpr ⟨ho, rfl⟩) (hprovider ▸ hlocal)
          exact hunique o ho hother (howner.symm.trans huid)
        rw [hdetermine r hr hfree]
        cases action with
        | create =>
            rw [hcreated rfl] at hr
            exact absurd hr List.not_mem_nil
        | put => rfl
        | patch => rfl
      · rintro ⟨-, -, -, value, hsome, -⟩
        cases hsome

/-! ## The reload -/

/-- A local authenticator and its user. -/
def localUser : AssociationDb where
  authenticators := [⟨1, by decide, "local", true⟩]
  usernames := ldapUser.usernames
  emails := fun _ => ""
  rows := [⟨1, 1, ldapUser.usernames 1, none⟩]
  unique := by decide
  provider_mem := by decide

/-- A new username alone. -/
def renamePayload : UserPayload where
  username := some (.lit "renamed")
  authenticators := none
  authenticatorUid := none
  associatedAuthenticators := none

/-- A new username goes to the local uid. -/
theorem localIdentity_rename :
    ∃ db', localUser.Accepts openValidators (fun _ => .lit "renamed") false .patch firstUser []
        renamePayload ⟨some (.lit "renamed"), none, none, none⟩ db' ∧ db'.LocalIdentity 1 := by
  have haccepts : ∃ db', localUser.Accepts openValidators (fun _ => .lit "renamed") false .patch
      firstUser [] renamePayload ⟨some (.lit "renamed"), none, none, none⟩ db' := ⟨_, rfl, rfl⟩
  obtain ⟨db', h⟩ := haccepts
  refine ⟨db', h, (localIdentity_iff localUser openValidators (fun _ => .lit "renamed") false .patch
    firstUser [] renamePayload _ db' ?_ ?_ ?_ ?_ h).mpr ?_⟩
  · intro user r hr _
    rw [List.mem_singleton.mp (mem_rowsOf.mp hr).1]
    rfl
  · exact fun hcreate => nomatch hcreate
  · intro r hr hother
    rw [List.mem_singleton.mp hr] at hother
    exact absurd rfl hother
  · exact fun _ _ _ => rfl
  · exact fun hreload => nomatch hreload.2.1

/-- A new username, an empty list of authenticators, and the associations on record. -/
def reloadPayload : UserPayload where
  username := some (.lit "renamed")
  authenticators := some (.arr [])
  authenticatorUid := none
  associatedAuthenticators := some (.obj [uidItem "1" "user"])

/-- Its fields when they are valid. -/
def reloadData : UserFields where
  username := some (.lit "renamed")
  authenticators := some (some [])
  authenticatorUid := none
  associatedAuthenticators := some (Dict.ofList [uidItem "1" "user"])

/-- The empty list reloads the old username, which the local authenticator then has as the uid of
the renamed user. The request is not a superuser's. -/
theorem not_localIdentity_reload :
    (∀ user, localUser.LocalIdentity user) ∧
      ∃ db', localUser.Accepts openValidators (fun _ => .lit "renamed") false .put firstUser []
        reloadPayload reloadData db' ∧ ¬db'.LocalIdentity 1 := by
  have hkey : pyInt "1" = some 1 := @pyInt_key 1 (by decide)
  have hentries : entriesOf (Dict.ofList [uidItem "1" "user"]) = [⟨1, .lit "user", none⟩] := by
    have hitems : (Dict.ofList [uidItem "1" "user"]).items = [uidItem "1" "user"] := rfl
    rw [entriesOf, hitems]
    unfold uidItem
    simp only [readEntry, List.filterMap, hkey]
    rfl
  have hvalid : localUser.runValidation openValidators false .put 1 [] reloadPayload =
      .valid reloadData := rfl
  have hsound : localUser.Sound firstUser.pk reloadData := sound_of_valid hvalid
  have hfits : localUser.PlanFits firstUser.pk
      (localUser.updatePlan (fun _ => .lit "renamed") firstUser reloadData) := by
    have hplan : localUser.updatePlan (fun _ => .lit "renamed") firstUser reloadData =
        .remove (fun _ => true) :: localUser.associatedPlan ⟨1, .lit "user"⟩
          (entriesOf (Dict.ofList [uidItem "1" "user"])) := rfl
    rw [hplan, hentries]
    have hforeign : ∀ k, ¬localUser.Foreign 1 k := not_foreign_of_forall (by decide)
    exact ⟨trivial, (fits_associatedPlan_iff _ _ _ _).mpr
      ⟨fun _ _ => hforeign _, by decide, fun _ _ => hforeign _⟩⟩
  obtain ⟨db', hok⟩ := (isOk_update_iff hsound).mpr hfits
  have hperform : localUser.perform (fun _ => .lit "renamed") .put firstUser reloadData =
      .ok db' := hok
  refine ⟨?_, db', ⟨hvalid, hperform⟩, fun hidentity => ?_⟩
  · intro user r hr _
    rw [List.mem_singleton.mp (mem_rowsOf.mp hr).1]
    rfl
  · obtain ⟨husername, hlocals⟩ := perform_eq_ok hsound hperform
    have hrows := rowsOf_perform hsound rfl hperform
    rw [hentries] at hrows
    have hrow : (⟨1, 1, .lit "user", none⟩ : AuthenticatorUser) ∈ db'.rowsOf 1 := by
      show _ ∈ db'.rowsOf firstUser.pk
      rw [hrows]
      exact List.mem_singleton_self _
    have huid := hidentity _ hrow (hlocals 1)
    have hnew : db'.usernames 1 = .lit "renamed" := husername
    rw [hnew] at huid
    exact absurd huid (by decide)

end AapGateway.Users
