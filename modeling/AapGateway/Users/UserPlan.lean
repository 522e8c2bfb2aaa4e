import AapGateway.Foundations.UniqueWrites
import AapGateway.Users.UserUpdate

/-!
# The writes of a user request

A request writes to the association rows of one user, one row after the other, and what it writes is
known from the request and these rows. The rows of the other users only decide how far it gets: a
uid that another user has at the authenticator stops it.

## Main definitions

* `AssociationDb.legacyPlan`: the writes of the deprecated fields;
* `Realizes`: a function of the application carries out a plan.

## Main results

* `realizes_processLegacy`: applying the deprecated fields carries out their plan.
-/

namespace AapGateway.Users

open UniqueWrites

/-- A write to the rows of a user. The key of a row is its authenticator and its uid. -/
abbrev RowWrite := Write AuthenticatorUser (ℕ × DbText)

/-- The key of a row. -/
def AuthenticatorUser.key (r : AuthenticatorUser) : ℕ × DbText := (r.provider, r.uid)

namespace AssociationDb

/-- Another user has a uid at an authenticator. -/
def Foreign (db : AssociationDb) (user : ℕ) (k : ℕ × DbText) : Prop :=
  ∃ o ∈ db.rows, o.user ≠ user ∧ o.key = k

/-- Where all rows are the user's, no uid is another user's. -/
theorem not_foreign_of_forall {db : AssociationDb} {user : ℕ} (h : ∀ o ∈ db.rows, o.user = user)
    (k : ℕ × DbText) : ¬db.Foreign user k := by
  rintro ⟨o, ho, hother, -⟩
  exact hother (h o ho)

/-- The plan can be carried out on the rows of the user. -/
def PlanFits (db : AssociationDb) (user : ℕ) (plan : List RowWrite) : Prop :=
  Fits AuthenticatorUser.key (db.Foreign user) (db.rowsOf user) plan

/-- The plan reaches a write with a uid that another user has. -/
def PlanCollides (db : AssociationDb) (user : ℕ) (plan : List RowWrite) : Prop :=
  Collides AuthenticatorUser.key (db.Foreign user) (db.rowsOf user) plan

/-- Only the rows of the user, and e-mails, differ. -/
structure SameElse (db db' : AssociationDb) (user : ℕ) : Prop where
  authenticators : db'.authenticators = db.authenticators
  usernames : db'.usernames = db.usernames
  others : ∀ o : AuthenticatorUser, o.user ≠ user → (o ∈ db'.rows ↔ o ∈ db.rows)

/-- A function carries out a plan: it ends with the rows after the plan if the plan fits, at the
constraint of the database if the plan collides, and otherwise with another failure. -/
def Realizes (db : AssociationDb) (user : ℕ) (plan : List RowWrite)
    (result : Except Failure AssociationDb) : Prop :=
  (db.PlanFits user plan ∧ ∃ db', result = .ok db' ∧
      db'.rowsOf user = after (db.rowsOf user) plan ∧ SameElse db db' user) ∨
    (db.PlanCollides user plan ∧ result = .error .taken) ∨
    (¬db.PlanFits user plan ∧ ¬db.PlanCollides user plan ∧
      ∃ e, result = .error e ∧ e ≠ .taken)

variable {db db' : AssociationDb} {user : ℕ} {plan plan' : List RowWrite}

theorem SameElse.refl (db : AssociationDb) (user : ℕ) : SameElse db db user :=
  ⟨rfl, rfl, fun _ _ => Iff.rfl⟩

theorem SameElse.trans {db'' : AssociationDb} (h : SameElse db db' user)
    (h' : SameElse db' db'' user) : SameElse db db'' user :=
  ⟨h'.authenticators.trans h.authenticators, h'.usernames.trans h.usernames,
    fun o ho => (h'.others o ho).trans (h.others o ho)⟩

/-- The uids of the other users are the same. -/
theorem SameElse.foreign (h : SameElse db db' user) : db'.Foreign user = db.Foreign user := by
  funext k
  refine propext (exists_congr fun o => ?_)
  constructor
  · rintro ⟨ho, huser, hkey⟩
    exact ⟨(h.others o huser).mp ho, huser, hkey⟩
  · rintro ⟨ho, huser, hkey⟩
    exact ⟨(h.others o huser).mpr ho, huser, hkey⟩

/-- The local authenticators are the same. -/
theorem SameElse.isLocalAt (h : SameElse db db' user) (provider : ℕ) :
    db'.isLocalAt provider = db.isLocalAt provider := by
  unfold AssociationDb.isLocalAt authenticator?
  rw [h.authenticators]

/-- The function ends without a failure exactly if the plan fits. -/
theorem Realizes.isOk_iff {result : Except Failure AssociationDb}
    (h : Realizes db user plan result) : (∃ db', result = .ok db') ↔ db.PlanFits user plan := by
  rcases h with ⟨hfits, db', hok, -⟩ | ⟨hcollides, herror⟩ | ⟨hnot, -, e, herror, -⟩
  · exact iff_of_true ⟨db', hok⟩ hfits
  · refine iff_of_false ?_ fun hfits => not_collides_of_fits hfits hcollides
    rintro ⟨db', hok⟩
    cases herror.symm.trans hok
  · refine iff_of_false ?_ hnot
    rintro ⟨db', hok⟩
    cases herror.symm.trans hok

/-- The function ends at a uid of another user exactly if the plan collides. -/
theorem Realizes.taken_iff {result : Except Failure AssociationDb}
    (h : Realizes db user plan result) :
    result = .error .taken ↔ db.PlanCollides user plan := by
  rcases h with ⟨hfits, db', hok, -⟩ | ⟨hcollides, herror⟩ | ⟨-, hnot, e, herror, hne⟩
  · exact iff_of_false (by rw [hok]; exact fun h => nomatch h) (not_collides_of_fits hfits)
  · exact iff_of_true herror hcollides
  · refine iff_of_false ?_ hnot
    rw [herror]
    exact fun heq => hne (Except.error.inj heq)

/-- What the function leaves. -/
theorem Realizes.of_ok (h : Realizes db user plan (.ok db')) :
    db.PlanFits user plan ∧ db'.rowsOf user = after (db.rowsOf user) plan ∧
      SameElse db db' user := by
  rcases h with ⟨hfits, db'', hok, hrows, hsame⟩ | ⟨-, herror⟩ | ⟨-, -, e, herror, -⟩
  · obtain rfl := Except.ok.inj hok
    exact ⟨hfits, hrows, hsame⟩
  · cases herror
  · cases herror

/-- One function after another carries out one plan after the other. -/
theorem Realizes.bind {result : Except Failure AssociationDb}
    {next : AssociationDb → Except Failure AssociationDb} (h : Realizes db user plan result)
    (hnext : ∀ db', result = .ok db' → db'.rowsOf user = after (db.rowsOf user) plan →
      SameElse db db' user → Realizes db' user plan' (next db')) :
    Realizes db user (plan ++ plan') (result >>= next) := by
  rcases h with ⟨hfits, db', hok, hrows, hsame⟩ | ⟨hcollides, herror⟩ | ⟨hnot, hnotCollides, e,
    herror, hne⟩
  · have hsecond := hnext db' hok hrows hsame
    unfold Realizes PlanFits PlanCollides at hsecond ⊢
    rw [fits_append, collides_append]
    rw [hsame.foreign, hrows] at hsecond
    have hfirst : ¬Collides AuthenticatorUser.key (db.Foreign user) (db.rowsOf user) plan :=
      not_collides_of_fits hfits
    rw [hok]
    rcases hsecond with ⟨hfits', db'', hok', hrows', hsame'⟩ | ⟨hcollides', herror'⟩ | hother
    · refine Or.inl ⟨⟨hfits, hfits'⟩, db'', hok', ?_, hsame.trans hsame'⟩
      rw [hrows', after_append]
    · exact Or.inr (Or.inl ⟨Or.inr ⟨hfits, hcollides'⟩, herror'⟩)
    · obtain ⟨hnotFits', hnotCollides', hother⟩ := hother
      refine Or.inr (Or.inr ⟨fun hall => hnotFits' hall.2, ?_, hother⟩)
      rintro (hc | ⟨-, hc⟩)
      · exact hfirst hc
      · exact hnotCollides' hc
  · exact Or.inr (Or.inl ⟨collides_append.mpr (Or.inl hcollides), by rw [herror]; rfl⟩)
  · refine Or.inr (Or.inr ⟨fun hall => hnot (fits_append.mp hall).1, ?_, e, by rw [herror]; rfl,
      hne⟩)
    intro hall
    rcases collides_append.mp hall with hc | ⟨hfits, -⟩
    · exact hnotCollides hc
    · exact hnot hfits

/-- Doing nothing. -/
theorem realizes_nil (db : AssociationDb) (user : ℕ) : Realizes db user [] (.ok db) :=
  Or.inl ⟨trivial, db, rfl, rfl, SameElse.refl db user⟩

/-- A failure that is not at a uid of another user. -/
theorem realizes_fail {e : Failure} (he : e ≠ .taken) :
    Realizes db user (.fail :: plan) (.error e) := by
  refine Or.inr (Or.inr ⟨fun h => h.1, ?_, e, rfl, he⟩)
  rintro (hw | ⟨hw, -⟩)
  · exact hw
  · exact hw

/-! ## Single writes -/

/-- A key is in use by another user, or by a row of the user. -/
theorem key_mem_iff {k : ℕ × DbText} :
    k ∈ db.rows.map (fun r => (r.provider, r.uid)) ↔
      db.Foreign user k ∨ k ∈ (db.rowsOf user).map AuthenticatorUser.key := by
  constructor
  · intro hmem
    obtain ⟨r, hr, hkey⟩ := List.mem_map.mp hmem
    by_cases huser : r.user = user
    · exact Or.inr (List.mem_map.mpr ⟨r, mem_rowsOf.mpr ⟨hr, huser⟩, hkey⟩)
    · exact Or.inl ⟨r, hr, huser, hkey⟩
  · rintro (⟨o, ho, -, hkey⟩ | hmem)
    · exact List.mem_map.mpr ⟨o, ho, hkey⟩
    · obtain ⟨r, hr, hkey⟩ := List.mem_map.mp hmem
      exact List.mem_map.mpr ⟨r, (mem_rowsOf.mp hr).1, hkey⟩

/-- The check for a conflict finds a uid of another user. -/
theorem isSome_uidConflict?_iff {provider : ℕ} {uid : DbText} :
    (db.uidConflict? provider uid user).isSome = true ↔ db.Foreign user (provider, uid) := by
  rw [uidConflict?, List.find?_isSome]
  refine exists_congr fun o => and_congr_right fun _ => ?_
  rw [decide_eq_true_iff, AuthenticatorUser.key, Prod.mk.injEq]
  tauto

/-- Creating a row appends it. -/
theorem createRow_eq_some {row : AuthenticatorUser} (h : db.createRow row = some db') :
    db'.rows = db.rows ++ [row] ∧ db'.authenticators = db.authenticators ∧
      db'.usernames = db.usernames := by
  unfold createRow at h
  split at h
  · rw [← Option.some.inj h]
    exact ⟨rfl, rfl, rfl⟩
  · cases h

/-- Inserting a row of the user at an authenticator that exists. -/
theorem realizes_insertRow {row : AuthenticatorUser} (huser : row.user = user)
    (hprovider : row.provider ∈ db.authenticators.map Authenticator.id) :
    Realizes db user [.insert row] (db.insertRow row) := by
  have hkey := @key_mem_iff db user row.key
  unfold insertRow
  by_cases hforeign : db.Foreign user row.key
  · -- the database refuses the uid of another user
    have hnone : db.createRow row = none := dif_neg fun h => h.1 (hkey.mpr (Or.inl hforeign))
    have hconflict : (db.uidConflict? row.provider row.uid row.user).isSome = true := by
      rw [huser]
      exact isSome_uidConflict?_iff.mpr hforeign
    rw [hnone]
    exact Or.inr (Or.inl ⟨Or.inl hforeign, congrArg Except.error (if_pos hconflict)⟩)
  · by_cases hown : row.key ∈ (db.rowsOf user).map AuthenticatorUser.key
    · have hnone : db.createRow row = none := dif_neg fun h => h.1 (hkey.mpr (Or.inr hown))
      have hconflict : ¬(db.uidConflict? row.provider row.uid row.user).isSome = true := by
        rw [huser]
        exact mt isSome_uidConflict?_iff.mp hforeign
      rw [hnone]
      refine Or.inr (Or.inr ⟨fun h => h.1.2 hown, ?_, .integrity,
        congrArg Except.error (if_neg hconflict), by decide⟩)
      rintro (hw | ⟨-, hw⟩)
      · exact hforeign hw
      · exact hw
    · have hnot : row.key ∉ db.rows.map (fun r => (r.provider, r.uid)) :=
        fun h => (hkey.mp h).elim hforeign hown
      cases hcreate : db.createRow row with
      | none =>
          rw [createRow, dif_pos ⟨hnot, hprovider⟩] at hcreate
          cases hcreate
      | some db' =>
          obtain ⟨hrows, hauthenticators, husernames⟩ := createRow_eq_some hcreate
          refine Or.inl ⟨⟨⟨hforeign, hown⟩, trivial⟩, db', rfl, ?_, hauthenticators, husernames, ?_⟩
          · simp [rowsOf, hrows, huser, Write.after]
          · intro o ho
            rw [hrows, List.mem_append, List.mem_singleton]
            refine or_iff_left ?_
            rintro rfl
            exact ho huser

/-- Removing some of the user's rows. -/
theorem realizes_removeRows {p q : AuthenticatorUser → Bool}
    (h : ∀ r, p r = true ↔ r.user = user ∧ q r = true) :
    Realizes db user [.remove q] (.ok (db.removeRows p)) := by
  refine Or.inl ⟨⟨trivial, trivial⟩, _, rfl, ?_, rfl, rfl, fun o ho => ?_⟩
  · show ((db.rows.filter fun r => !p r).filter _) = (db.rows.filter _).filter fun r => !q r
    rw [List.filter_filter, List.filter_filter]
    refine List.filter_congr fun r _ => ?_
    rw [Bool.eq_iff_iff]
    simp only [Bool.and_eq_true, decide_eq_true_eq, Bool.not_eq_true']
    rw [Bool.eq_false_iff, Bool.eq_false_iff, ne_eq, ne_eq, h r]
    tauto
  · show o ∈ Table.erase p db.rows ↔ _
    rw [Table.mem_erase]
    exact and_iff_left (Bool.eq_false_iff.mpr fun hp => ho ((h o).mp hp).1)

/-- Saving a row of the user with another uid. -/
theorem realizes_setUid {r : AuthenticatorUser} (huser : r.user = user) (uid : DbText) :
    Realizes db user [.replace r { r with uid }] (db.setUid r uid) := by
  unfold setUid
  have hmem : r ∈ db.rowsOf user ↔ r ∈ db.rows := mem_rowsOf.trans (and_iff_left huser)
  by_cases hr : r ∈ db.rows
  · -- the row is taken out and put in again
    rw [if_pos hr]
    have hremove := @realizes_removeRows db user (· = r) (· = r) fun x => by
      simp only [decide_eq_true_eq]
      exact ⟨fun hx => ⟨hx ▸ huser, hx⟩, fun hx => hx.2⟩
    obtain ⟨-, hrows, hsame⟩ := hremove.of_ok
    have hprovider : ({ r with uid } : AuthenticatorUser).provider ∈
        (db.removeRows (· = r)).authenticators.map Authenticator.id := db.provider_mem r hr
    have hinsert := @realizes_insertRow (db.removeRows (· = r)) user { r with uid } huser hprovider
    unfold Realizes PlanFits PlanCollides at hinsert ⊢
    rw [hsame.foreign, hrows] at hinsert
    have hfilter : after (db.rowsOf user) [(Write.remove (· = r) : RowWrite)] =
        (db.rowsOf user).filter (· ≠ r) := by
      simp [Write.after]
    rw [hfilter] at hinsert
    simp only [fits_cons, fits_nil, and_true, collides_cons, not_collides_nil, and_false,
      or_false, Write.Fits, Write.Collides, after_cons, after_nil, Write.after, hmem, hr,
      true_and] at hinsert ⊢
    rcases hinsert with ⟨hfits, db', hok, hrows', hsame'⟩ | hother
    · exact Or.inl ⟨hfits, db', hok, hrows', hsame.trans hsame'⟩
    · exact Or.inr hother
  · rw [if_neg hr]
    refine Or.inr (Or.inr ⟨fun h => hr (hmem.mp h.1.1), ?_, .exception, rfl, by decide⟩)
    rintro (hw | ⟨hw, -⟩)
    · exact hr (hmem.mp hw.1)
    · exact hr (hmem.mp hw.1)

/-! ## The deprecated fields -/

section Legacy

/-- The writes of `_create_authenticator_user`. -/
def createPlan (db : AssociationDb) (id : ℕ) (uid : Option DbText) (user : UserRef)
    (email : Option String) : List RowWrite :=
  match db.authenticator? id with
  | none => [.fail]
  | some _ =>
    (uid.map fun uid => Write.check (id, uid)).toList ++
      match db.writtenUid id user.username uid with
      | none => [.fail]
      | some uid => [.insert ⟨id, user.pk, uid, email⟩]

/-- The writes of `_add_authenticators`. -/
def addPlan (db : AssociationDb) (uid : Option DbText) (user : UserRef) (added : List Choice) :
    List RowWrite :=
  added.flatMap fun
    | .blank => [.fail]
    | .id n => db.createPlan n uid user none

/-- The writes that set the uids of some rows. -/
def savePlan (uidFor : AuthenticatorUser → Option DbText) (rows : List AuthenticatorUser) :
    List RowWrite :=
  rows.filterMap fun r => (uidFor r).map fun uid => .replace r { r with uid }

/-- A row with the uid that is set. -/
def relabelled (uidFor : AuthenticatorUser → Option DbText) (r : AuthenticatorUser) :
    AuthenticatorUser :=
  { r with uid := (uidFor r).getD r.uid }

/-- The uid that `_update_authenticator_uids` sets in a row, if it sets one, the user having these
uids. -/
def updatedUid (db : AssociationDb) (uid : Option DbText) (username : DbText) (uids : List DbText)
    (r : AuthenticatorUser) : Option DbText :=
  if uid.all (· ∈ uids) then
    if db.isLocalAt r.provider ∧ r.uid ≠ username then some username else none
  else db.writtenUid r.provider username uid

/-- The writes of `_update_authenticator_uids`. -/
def uidsPlan (db : AssociationDb) (uid : Option DbText) (user : UserInstance)
    (own : List AuthenticatorUser) : List RowWrite :=
  savePlan (db.updatedUid uid user.username (own.map (·.uid))) (user.fetched.getD own)

/-- The writes of `_update_legacy_authenticator_uid`. -/
def legacyUidPlan (db : AssociationDb) (uid : DbText) (user : UserInstance)
    (own : List AuthenticatorUser) : List RowWrite :=
  match user.lastLoginFrom with
  | none => []
  | some target =>
    match own.filter (·.provider = target) with
    | [] => []
    | [r] =>
      let uid := if db.isLocalAt target then user.username else uid
      if r.uid ≠ uid then [.replace r { r with uid }] else []
    | _ => [.fail]

/-- The authenticators that the deprecated field removes. -/
def removedIds (authenticators : List Choice) (own : List AuthenticatorUser) : List ℕ :=
  (own.map AuthenticatorUser.provider).filter fun id => Choice.id id ∉ authenticators

/-- The choices that it adds. -/
def addedChoices (authenticators : List Choice) (own : List AuthenticatorUser) : List Choice :=
  authenticators.filter fun choice => choice ∉ (own.map AuthenticatorUser.provider).map Choice.id

/-- The writes that remove and add the authenticators of the deprecated field. -/
def exchangePlan (db : AssociationDb) (authenticators : List Choice) (uid : Option DbText)
    (user : UserRef) (own : List AuthenticatorUser) : List RowWrite :=
  .remove (fun r => r.provider ∈ removedIds authenticators own) ::
    db.addPlan uid user (addedChoices authenticators own)

/-- The writes of `_process_legacy_authenticator_fields`. -/
def legacyPlan (db : AssociationDb) (authenticators : Option (List Choice)) (uid : Option DbText)
    (user : UserInstance) (own : List AuthenticatorUser) : List RowWrite :=
  match authenticators, uid with
  | some [], _ => [.remove fun _ => true]
  | some authenticators, uid =>
    let exchange := db.exchangePlan authenticators uid user.toUserRef own
    exchange ++ db.uidsPlan uid user (after own exchange)
  | none, some uid => db.legacyUidPlan uid user own
  | none, none => []

/-- The instance after the deprecated fields. -/
def legacyUser (db : AssociationDb) (authenticators : Option (List Choice)) (user : UserInstance) :
    UserInstance :=
  if authenticators = some [] then
    { user with username := db.usernames user.pk, fetched := none }
  else user

/-- Creating a row carries out its writes. -/
theorem realizes_createUserRow (db : AssociationDb) (id : ℕ) (uid : Option DbText) (user : UserRef)
    (email : Option String) :
    Realizes db user.pk (db.createPlan id uid user email) (db.createUserRow id uid user email) := by
  unfold createPlan createUserRow
  cases ha : db.authenticator? id with
  | none => exact realizes_fail (by decide)
  | some a =>
      have hid : a.id = id := id_of_authenticator? ha
      dsimp only
      rw [hid]
      -- after the check, the row is inserted
      have hwrite : ∀ plan result, (plan = match db.writtenUid id user.username uid with
            | none => [.fail]
            | some uid => [.insert ⟨id, user.pk, uid, email⟩]) →
          (result = match db.writtenUid id user.username uid with
            | none => .error .integrity
            | some uid => db.insertRow ⟨id, user.pk, uid, email⟩) →
          Realizes db user.pk plan result := by
        rintro plan result rfl rfl
        cases db.writtenUid id user.username uid with
        | none => exact realizes_fail (by decide)
        | some written =>
            refine realizes_insertRow rfl ?_
            exact List.mem_map.mpr ⟨a, List.mem_of_find?_eq_some ha, hid⟩
      cases uid with
      | none => exact hwrite _ _ rfl rfl
      | some uid =>
          have hinsert := hwrite _ _ rfl rfl
          simp only [Option.any_some, Option.map_some, Option.toList_some, List.singleton_append]
          by_cases hforeign : db.Foreign user.pk (id, uid)
          · rw [if_pos (isSome_uidConflict?_iff.mpr hforeign)]
            refine Or.inr (Or.inr ⟨fun h => h.1 hforeign, ?_, .validation, rfl, by decide⟩)
            rintro (hw | ⟨hw, -⟩)
            · exact hw
            · exact hw hforeign
          · rw [if_neg (mt isSome_uidConflict?_iff.mp hforeign)]
            unfold Realizes PlanFits PlanCollides at hinsert ⊢
            simp only [fits_cons, collides_cons, after_cons, Write.Fits, Write.Collides,
              Write.after,
              hforeign, not_false_eq_true, true_and, false_or]
            exact hinsert

/-- The plan of a row depends on the authenticators only. -/
theorem createPlan_congr (h : SameElse db db' user) (id : ℕ) (uid : Option DbText) (ref : UserRef)
    (email : Option String) : db'.createPlan id uid ref email = db.createPlan id uid ref email := by
  unfold createPlan writtenUid
  rw [h.isLocalAt]
  have hauth : db'.authenticator? id = db.authenticator? id := by
    unfold authenticator?
    rw [h.authenticators]
  rw [hauth]

/-- So does the plan of several rows. -/
theorem addPlan_congr (h : SameElse db db' user) (uid : Option DbText) (ref : UserRef)
    (added : List Choice) : db'.addPlan uid ref added = db.addPlan uid ref added := by
  refine List.flatMap_congr fun choice _ => ?_
  cases choice with
  | blank => rfl
  | id n => exact createPlan_congr h n uid ref none

/-- Adding authenticators carries out their writes. -/
theorem realizes_addAuthenticators (db : AssociationDb) (uid : Option DbText) (user : UserRef)
    (added : List Choice) :
    Realizes db user.pk (db.addPlan uid user added) (addAuthenticators uid user db added) := by
  induction added generalizing db with
  | nil => exact realizes_nil db user.pk
  | cons choice added ih =>
      cases choice with
      | blank => exact realizes_fail (by decide)
      | id n =>
          refine (realizes_createUserRow db n uid user none).bind fun db' _ _ hsame => ?_
          show Realizes db' user.pk (db.addPlan uid user added) _
          rw [← addPlan_congr hsame]
          exact ih db'

/-- Setting the uids of rows of the user carries out its writes, and returns the rows as they are
then. -/
theorem realizes_saveUids (db : AssociationDb) (uidFor : AuthenticatorUser → Option DbText)
    {rows : List AuthenticatorUser} (hrows : ∀ r ∈ rows, r.user = user) :
    ∃ result, saveUids uidFor db rows =
        result.map (fun db' => (db', rows.map (relabelled uidFor))) ∧
      Realizes db user (savePlan uidFor rows) result := by
  induction rows generalizing db with
  | nil => exact ⟨.ok db, rfl, realizes_nil db user⟩
  | cons r rows ih =>
      rw [List.forall_mem_cons] at hrows
      have hlater := fun db' => ih db' hrows.2
      unfold saveUids savePlan
      cases huid : uidFor r with
      | none =>
          obtain ⟨result, hresult, hrealizes⟩ := hlater db
          refine ⟨result, ?_, by simpa [huid, savePlan] using hrealizes⟩
          dsimp only
          rw [hresult]
          cases result with
          | error e => rfl
          | ok db' => simp [relabelled, huid, Except.map, Except.bind, bind, pure, Except.pure]
      | some uid =>
          choose next hnext hnextRealizes using hlater
          refine ⟨db.setUid r uid >>= next, ?_, ?_⟩
          · dsimp only
            cases db.setUid r uid with
            | error e => rfl
            | ok db' =>
                show (saveUids uidFor db' rows >>= _) = Except.map _ (next db')
                rw [hnext db']
                cases hresult : next db' with
                | error e => simp [bind, Except.bind, Except.map]
                | ok db'' =>
                    simp [bind, Except.bind, Except.map, relabelled, huid, pure, Except.pure]
          · have hfirst := @realizes_setUid db user r hrows.1 uid
            have hboth := hfirst.bind fun db' _ _ _ => hnextRealizes db'
            simpa [huid, savePlan] using hboth

/-- `_update_authenticator_uids` carries out its writes. -/
theorem realizes_updateAuthenticatorUids (db : AssociationDb) (uid : Option DbText)
    {user : UserInstance} (hfetched : ∀ rows ∈ user.fetched, ∀ r ∈ rows, r.user = user.pk) :
    Realizes db user.pk (db.uidsPlan uid user (db.rowsOf user.pk))
      (db.updateAuthenticatorUids uid user) := by
  have hrows : ∀ r ∈ user.fetched.getD (db.rowsOf user.pk), r.user = user.pk := by
    cases hcase : user.fetched with
    | none => exact fun r hr => (mem_rowsOf.mp hr).2
    | some rows => exact hfetched rows hcase
  obtain ⟨result, hresult, hrealizes⟩ := realizes_saveUids db
    (db.updatedUid uid user.username ((db.rowsOf user.pk).map (·.uid))) hrows
  have hupdate : db.updateAuthenticatorUids uid user = result := by
    unfold updateAuthenticatorUids
    -- a uid is among those of the user whether or not each is named once
    have huidFor : (fun r : AuthenticatorUser =>
        if uid.all (· ∈ db.getAuthenticatorUids user.pk) then
          if db.isLocalAt r.provider ∧ r.uid ≠ user.username then some user.username else none
        else db.writtenUid r.provider user.username uid) =
        db.updatedUid uid user.username ((db.rowsOf user.pk).map (·.uid)) := by
      funext r
      simp only [updatedUid, getAuthenticatorUids, List.mem_dedup]
    rw [huidFor]
    show (saveUids _ db _ >>= fun p => pure p.1) = result
    rw [allRows, hresult]
    cases result <;> rfl
  rw [hupdate]
  exact hrealizes

/-- `_update_legacy_authenticator_uid` carries out its writes. -/
theorem realizes_updateLegacyAuthenticatorUid (db : AssociationDb) (uid : DbText)
    (user : UserInstance) :
    Realizes db user.pk (db.legacyUidPlan uid user (db.rowsOf user.pk))
      (db.updateLegacyAuthenticatorUid uid user) := by
  unfold legacyUidPlan updateLegacyAuthenticatorUid
  cases user.lastLoginFrom with
  | none => exact realizes_nil db user.pk
  | some target =>
      dsimp only
      cases hrows : (db.rowsOf user.pk).filter (·.provider = target) with
      | nil => exact realizes_nil db user.pk
      | cons r rows =>
          cases rows with
          | cons r' rows => exact realizes_fail (by decide)
          | nil =>
              have hr : r ∈ db.rowsOf user.pk :=
                (List.mem_filter.mp (hrows ▸ List.mem_singleton_self r)).1
              dsimp only
              generalize (if db.isLocalAt target then user.username else uid) = written
              split
              · exact realizes_setUid (mem_rowsOf.mp hr).2 written
              · exact realizes_nil db user.pk

/-- Removing authenticators leaves the usernames. -/
theorem usernames_removeAuthenticators (db : AssociationDb) (ids : List ℕ) (user : ℕ) :
    (db.removeAuthenticators ids user).usernames = db.usernames := by
  unfold removeAuthenticators
  induction ids generalizing db with
  | nil => rfl
  | cons id ids ih => exact ih _

/-- The rows of the user that are left when authenticators are removed. -/
theorem rowsOf_removeAuthenticators (db : AssociationDb) (ids : List ℕ) (user : ℕ) :
    (db.removeAuthenticators ids user).rowsOf user =
      (db.rowsOf user).filter fun r => !decide (r.provider ∈ ids) := by
  unfold removeAuthenticators
  induction ids generalizing db with
  | nil => simp
  | cons id ids ih =>
      have hremove := @realizes_removeRows db user (fun r => r.user = user ∧ r.provider = id)
        (fun r => r.provider = id) fun r => by simp
      rw [List.foldl_cons, ih, hremove.of_ok.2.1]
      show ((db.rowsOf user).filter _).filter _ = _
      rw [List.filter_filter]
      refine List.filter_congr fun r _ => ?_
      rw [Bool.eq_iff_iff]
      simp only [Bool.and_eq_true, Bool.not_eq_true', decide_eq_false_iff_not, List.mem_cons]
      tauto

/-- `_remove_authenticators` carries out its write. -/
theorem realizes_removeAuthenticators (db : AssociationDb) (ids : List ℕ) (user : ℕ) :
    Realizes db user [.remove fun r => r.provider ∈ ids]
      (.ok (db.removeAuthenticators ids user)) := by
  refine Or.inl ⟨⟨trivial, trivial⟩, _, rfl, rowsOf_removeAuthenticators db ids user,
    authenticators_removeAuthenticators db ids user, usernames_removeAuthenticators db ids user,
    fun o ho => ?_⟩
  rw [mem_rows_removeAuthenticators]
  exact and_iff_left fun h => ho h.1

/-- The plan for the uids depends on the authenticators only. -/
theorem uidsPlan_congr (h : SameElse db db' user) (uid : Option DbText) (ref : UserInstance)
    (own : List AuthenticatorUser) : db'.uidsPlan uid ref own = db.uidsPlan uid ref own := by
  unfold uidsPlan updatedUid writtenUid
  simp only [h.isLocalAt]

/-- Removing and adding authenticators carries out the writes. -/
theorem realizes_exchange (db : AssociationDb) (authenticators : List Choice) (uid : Option DbText)
    (user : UserRef) :
    Realizes db user.pk (db.exchangePlan authenticators uid user (db.rowsOf user.pk))
      (addAuthenticators uid user
        (db.removeAuthenticators (removedIds authenticators (db.rowsOf user.pk)) user.pk)
        (addedChoices authenticators (db.rowsOf user.pk))) := by
  have hremove := realizes_removeAuthenticators db (removedIds authenticators (db.rowsOf user.pk))
    user.pk
  have hadd : ∀ db', SameElse db db' user.pk →
      Realizes db' user.pk (db.addPlan uid user (addedChoices authenticators (db.rowsOf user.pk)))
        (addAuthenticators uid user db' (addedChoices authenticators (db.rowsOf user.pk))) := by
    intro db' hsame
    rw [← addPlan_congr hsame]
    exact realizes_addAuthenticators db' uid user _
  exact hremove.bind fun db' _ _ hsame => hadd db' hsame

/-- The deprecated fields carry out their writes, and leave the instance of `legacyUser`. -/
theorem realizes_processLegacy (db : AssociationDb) (authenticators : Option (List Choice))
    (uid : Option DbText) {user : UserInstance}
    (hfetched : ∀ rows ∈ user.fetched, ∀ r ∈ rows, r.user = user.pk) :
    ∃ result, db.processLegacyAuthenticatorFields authenticators uid user =
        result.map (fun db' => (db', db.legacyUser authenticators user)) ∧
      Realizes db user.pk (db.legacyPlan authenticators uid user (db.rowsOf user.pk)) result := by
  unfold processLegacyAuthenticatorFields legacyPlan
  match authenticators, uid with
  | some [], _ =>
      refine ⟨.ok (db.removeRows (·.user = user.pk)), rfl, ?_⟩
      exact realizes_removeRows fun r => by simp
  | some (choice :: choices), uid =>
      have hsame : db.legacyUser (some (choice :: choices)) user = user := if_neg (by simp)
      have hexchange := db.realizes_exchange (choice :: choices) uid user.toUserRef
      refine ⟨addAuthenticators uid user.toUserRef
          (db.removeAuthenticators (removedIds (choice :: choices) (db.rowsOf user.pk)) user.pk)
          (addedChoices (choice :: choices) (db.rowsOf user.pk)) >>=
        fun db' => db'.updateAuthenticatorUids uid user, ?_, ?_⟩
      · rw [hsame]
        show (addAuthenticators uid user.toUserRef
          (db.removeAuthenticators (removedIds (choice :: choices) (db.rowsOf user.pk)) user.pk)
          (addedChoices (choice :: choices) (db.rowsOf user.pk)) >>= _) = _
        generalize addAuthenticators uid user.toUserRef _ _ = added
        cases added with
        | error e => rfl
        | ok db' =>
            show (db'.updateAuthenticatorUids uid user >>= _) =
              (db'.updateAuthenticatorUids uid user).map _
            cases db'.updateAuthenticatorUids uid user <;> rfl
      · refine hexchange.bind fun db' _ hrows hsame' => ?_
        rw [← uidsPlan_congr hsame', ← hrows]
        exact realizes_updateAuthenticatorUids db' uid hfetched
  | none, some uid =>
      have hsame : db.legacyUser none user = user := if_neg (by simp)
      refine ⟨db.updateLegacyAuthenticatorUid uid user, ?_, ?_⟩
      · rw [hsame]
        show (db.updateLegacyAuthenticatorUid uid user >>= _) = _
        cases db.updateLegacyAuthenticatorUid uid user <;> rfl
      · exact realizes_updateLegacyAuthenticatorUid db uid user
  | none, none => exact ⟨.ok db, rfl, realizes_nil db user.pk⟩

end Legacy

end AssociationDb

end AapGateway.Users
