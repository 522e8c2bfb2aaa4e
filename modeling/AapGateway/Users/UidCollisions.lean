import AapGateway.Users.RoundTrip

/-!
# Uids of other users

An authenticator gives a uid to one user, and the database refuses a second row with it. A request
is checked for such conflicts before it is applied, but not every uid that it writes is one that was
checked: at a local authenticator the uid is replaced by the username after the check, and the rows
that a request re-labels are checked only with a new list of authenticators.

## Main definitions

* `AssociationDb.Unchecked`: the writes whose uid no check covers;
* `AssociationDb.ReachesUnchecked`: a request reaches such a write, and another user has the uid.

## Main results

* `reachesUnchecked_requestPlan`: where a request collides, the write is an unchecked one;
* `checksPreventCollisions_iff`: when the checks keep the request from the constraint of the
  database;
* `not_reachesUnchecked_of_adds`, `not_reachesUnchecked_of_newField` and
  `reachesUnchecked_uidOnly_iff`: the condition by the fields of a request, without local
  authenticators;
* `not_checksPreventCollisions_uidOnly`: an update of the uid alone.
-/

namespace AapGateway.Users

open UniqueWrites

namespace AssociationDb

/-- A request that only removes authenticators. Its uid is not checked. -/
def OnlyRemoves (db : AssociationDb) (user : ℕ) (data : UserFields) : Prop :=
  ∃ authenticators, data.authenticators.join = some authenticators ∧
    isOnlyRemovingAuthenticators authenticators ((db.getAuthenticatorIds user).map Choice.id) = true

/-- The writes whose uid no check covers: those at local authenticators, and the rows that are
re-labelled with the uid alone, in a request that only removes authenticators, or beside the new
field. -/
def Unchecked (db : AssociationDb) (user : ℕ) (data : UserFields) : RowWrite → Prop
  | .insert row => db.isLocalAt row.provider = true
  | .replace row _ =>
    db.isLocalAt row.provider = true ∨ data.associatedAuthenticators.isSome = true ∨
      data.authenticators.join = none ∨ db.OnlyRemoves user data
  | _ => False

/-- The writes of a request. -/
def performPlan (db : AssociationDb) (determine : AuthenticatorUser → DbText) (action : Action)
    (stored : StoredUser) (data : UserFields) : List RowWrite :=
  match action with
  | .create =>
    (db.setUsername stored.pk (data.username.getD DbText.empty)).requestPlan
      (newUser stored.pk data) data (db.rowsOf stored.pk)
  | .put | .patch => db.updatePlan determine stored data

/-- A write with a uid that another user has at the authenticator, and that no check covers. -/
def UncheckedCollision (db : AssociationDb) (user : ℕ) (data : UserFields)
    (own : List AuthenticatorUser) (w : RowWrite) : Prop :=
  w.Collides AuthenticatorUser.key (db.Foreign user) own ∧ db.Unchecked user data w

/-- A request reaches an unchecked write with a uid that another user has. -/
def ReachesUnchecked (db : AssociationDb) (determine : AuthenticatorUser → DbText) (action : Action)
    (stored : StoredUser) (data : UserFields) : Prop :=
  Reaches AuthenticatorUser.key (db.Foreign stored.pk) (db.UncheckedCollision stored.pk data)
    (db.rowsOf stored.pk) (db.performPlan determine action stored data)

/-- Without the new field, the uid of a request that sets authenticators and does not only remove
some is no other user's at any of them. -/
def Checked (db : AssociationDb) (user : ℕ) (data : UserFields) : Prop :=
  data.associatedAuthenticators = none → ¬db.OnlyRemoves user data →
    ∀ authenticators, data.authenticators.join = some authenticators → authenticators ≠ [] →
      ∃ uid, data.authenticatorUid = some uid ∧
        ∀ n, .id n ∈ authenticators → ¬db.Foreign user (n, uid)

variable {db : AssociationDb} {user : ℕ} {data : UserFields}

/-! ## What the validation checks -/

/-- The check of a uid finds nothing exactly if no other user has it at any of the
authenticators. -/
theorem not_foreign_of_validateUidConflicts {uid : DbText} {authenticators : List Choice}
    (h : db.validateUidConflicts uid user authenticators = some []) {n : ℕ}
    (hn : .id n ∈ authenticators) : ¬db.Foreign user (n, uid) := by
  induction authenticators with
  | nil => exact absurd hn List.not_mem_nil
  | cons choice authenticators ih =>
      cases choice with
      | blank => cases h
      | id m =>
          rw [validateUidConflicts] at h
          obtain ⟨errors, herrors, hrest⟩ := Option.bind_eq_some_iff.mp h
          have hfirst : errors = [] ∧ ¬db.Foreign user (m, uid) := by
            split at hrest
            · -- no row is at an authenticator that does not exist
              rename_i hmissing
              refine ⟨Option.some.inj hrest, ?_⟩
              rintro ⟨o, ho, -, hkey⟩
              obtain ⟨a, ha, -⟩ := exists_authenticator? ho
              have hprovider : o.provider = m := congrArg Prod.fst hkey
              rw [hprovider, hmissing] at ha
              cases ha
            · split at hrest
              · rename_i hconflict
                refine ⟨Option.some.inj hrest, ?_⟩
                rw [← isSome_uidConflict?_iff, hconflict]
                exact Bool.false_ne_true
              · cases hrest
          rcases List.mem_cons.mp hn with heq | hmem
          · rw [Choice.id.inj heq]
            exact hfirst.2
          · exact ih (hfirst.1 ▸ herrors) hmem

/-- The fields of a valid request are checked. -/
theorem checked_of_validate {validators : UserValidators} {action : Action} {given : UserFields}
    (h : db.validate validators action user given = .valid data) : db.Checked user data := by
  obtain ⟨-, hcompleted, hchecks⟩ := valid_of_validate h
  obtain ⟨hdata, -⟩ := completed_eq hcompleted
  intro hnone hremoves authenticators hauthenticators hne
  have hgiven : given.authenticators.join = some authenticators := by
    rw [hdata] at hauthenticators
    exact hauthenticators
  have hvalid := (hchecks (by rw [hdata] at hnone; exact hnone)).1 authenticators hgiven hne
  unfold validateAuthenticatorsAndUid at hvalid
  dsimp only at hvalid
  rw [if_neg fun hremoving => hremoves ⟨authenticators, hauthenticators, hremoving⟩] at hvalid
  generalize hfilter : given.authenticatorUid.filter (·.text ≠ "") = uid at hvalid
  cases uid with
  | none =>
      -- an empty uid is an error
      simp at hvalid
  | some uid =>
      obtain ⟨conflicts, hconflicts, herrors⟩ := Option.bind_eq_some_iff.mp hvalid
      obtain ⟨hfirst, -⟩ := List.append_eq_nil_iff.mp (Option.some.inj herrors)
      obtain ⟨-, rfl⟩ := List.append_eq_nil_iff.mp hfirst
      have huid : given.authenticatorUid = some uid := (Option.filter_eq_some_iff.mp hfilter).1
      have hsame : data = given := by
        rw [handlePartialUpdate, if_neg] at hcompleted
        · exact (Stage.valid.inj hcompleted).symm
        · rintro ⟨-, -, hlacks⟩
          rw [huid] at hlacks
          cases hlacks
      exact ⟨uid, hsame ▸ huid, fun n hn => not_foreign_of_validateUidConflicts hconflicts hn⟩

/-! ## Collisions are at unchecked writes -/

section Reached

variable {own : List AuthenticatorUser}

/-- Creating a row collides at a local authenticator only: elsewhere the check is for the uid that
is written. -/
theorem reachesUnchecked_createPlan {id : ℕ} {uid : Option DbText} {email : Option String}
    {ref : UserRef} (h : Reaches AuthenticatorUser.key (db.Foreign user)
      (fun own w => w.Collides AuthenticatorUser.key (db.Foreign user) own) own
      (db.createPlan id uid ref email)) :
    Reaches AuthenticatorUser.key (db.Foreign user) (db.UncheckedCollision user data) own
      (db.createPlan id uid ref email) := by
  unfold createPlan at h ⊢
  split at h
  · exact (h.resolve_right fun hrest => hrest.2).elim
  · rename_i a ha
    simp only [writtenUid] at h ⊢
    by_cases hlocal : db.isLocalAt id = true
    · have hkind : ∀ row : AuthenticatorUser, row.provider = id →
          db.Unchecked user data (.insert row) := by
        rintro row rfl
        exact hlocal
      rw [if_pos hlocal] at h ⊢
      cases uid with
      | none => exact Or.imp_left (fun hw => ⟨hw, hkind _ rfl⟩) h
      | some uid =>
          rcases h with hw | ⟨hfits, hw | hrest⟩
          · exact hw.elim
          · exact Or.inr ⟨hfits, Or.inl ⟨hw, hkind _ rfl⟩⟩
          · exact hrest.2.elim
    · rw [if_neg hlocal] at h ⊢
      cases uid with
      | none => exact (h.resolve_right fun hrest => hrest.2).elim
      | some uid =>
          -- the check has found the uid free
          rcases h with hw | ⟨hfits, hw | hrest⟩
          · exact hw.elim
          · exact absurd hw hfits
          · exact hrest.2.elim

/-- Adding authenticators collides at local ones only. -/
theorem reachesUnchecked_addPlan {uid : Option DbText} {ref : UserRef} {added : List Choice}
    (h : Reaches AuthenticatorUser.key (db.Foreign user)
      (fun own w => w.Collides AuthenticatorUser.key (db.Foreign user) own) own
      (db.addPlan uid ref added)) :
    Reaches AuthenticatorUser.key (db.Foreign user) (db.UncheckedCollision user data) own
      (db.addPlan uid ref added) := by
  induction added generalizing own with
  | nil => exact h.elim
  | cons choice added ih =>
      cases choice with
      | blank =>
          rcases h with hw | ⟨hfits, -⟩
          · exact hw.elim
          · exact hfits.elim
      | id n =>
          have hplan : db.addPlan uid ref (.id n :: added) =
              db.createPlan n uid ref none ++ db.addPlan uid ref added := rfl
          rw [hplan, reaches_append] at h ⊢
          exact h.imp reachesUnchecked_createPlan fun hrest => ⟨hrest.1, ih hrest.2⟩

/-- Adding authenticators leaves the rows at authenticators of the list. -/
theorem keeps_addPlan {uid : Option DbText} {ref : UserRef} {authenticators added : List Choice}
    (hadded : ∀ choice ∈ added, choice ∈ authenticators) :
    ∀ w ∈ db.addPlan uid ref added, w.Keeps fun r => .id r.provider ∈ authenticators := by
  intro w hw
  obtain ⟨choice, hmem, hchoice⟩ := List.mem_flatMap.mp hw
  cases choice with
  | blank =>
      rw [List.mem_singleton.mp hchoice]
      trivial
  | id n =>
      simp only [createPlan] at hchoice
      split at hchoice
      · rw [List.mem_singleton.mp hchoice]
        trivial
      · rcases List.mem_append.mp hchoice with hcheck | hinsert
        · obtain ⟨uid, -, rfl⟩ := Option.map_eq_some_iff.mp (Option.mem_toList.mp hcheck)
          trivial
        · split at hinsert
          · rw [List.mem_singleton.mp hinsert]
            trivial
          · rw [List.mem_singleton.mp hinsert]
            exact hadded _ hmem

/-- After the exchange every row is at an authenticator of the list. -/
theorem forall_after_exchangePlan {authenticators : List Choice} {uid : Option DbText}
    {ref : UserRef} {foreign : ℕ × DbText → Prop}
    (hfits : Fits AuthenticatorUser.key foreign own (db.exchangePlan authenticators uid ref own)) :
    ∀ r ∈ after own (db.exchangePlan authenticators uid ref own),
      .id r.provider ∈ authenticators := by
  rw [exchangePlan, after_cons]
  refine forall_mem_after (fun r hr => ?_) hfits.2 (keeps_addPlan fun choice hchoice => ?_)
  · -- a row that is left is at none of the authenticators that are removed
    obtain ⟨hown, hleft⟩ := List.mem_filter.mp hr
    simp only [removedIds, List.mem_filter, Bool.not_eq_true', decide_eq_false_iff_not, not_and,
      decide_eq_true_eq, Classical.not_not] at hleft
    exact hleft (List.mem_map_of_mem hown)
  · exact (List.mem_filter.mp hchoice).1

/-- The rows that a list of authenticators re-labels collide at unchecked writes only. -/
theorem reachesUnchecked_uidsPlan {ref : UserInstance} {authenticators : List Choice}
    {rows : List AuthenticatorUser} (hchecked : db.Checked user data)
    (hauthenticators : data.authenticators.join = some authenticators) (hne : authenticators ≠ [])
    (hown : ∀ r ∈ own, .id r.provider ∈ authenticators)
    (h : Reaches AuthenticatorUser.key (db.Foreign user)
      (fun own w => w.Collides AuthenticatorUser.key (db.Foreign user) own) own
      (db.uidsPlan data.authenticatorUid ref rows)) :
    Reaches AuthenticatorUser.key (db.Foreign user) (db.UncheckedCollision user data) own
      (db.uidsPlan data.authenticatorUid ref rows) := by
  refine h.and hown ?_ ?_
  · -- a row that is re-labelled stays at its authenticator
    intro w hw
    obtain ⟨r, -, hwrite⟩ := List.mem_filterMap.mp hw
    obtain ⟨uid, -, rfl⟩ := Option.map_eq_some_iff.mp hwrite
    exact id
  · intro w hw current hcurrent hcollides
    obtain ⟨r, -, hwrite⟩ := List.mem_filterMap.mp hw
    obtain ⟨written, hwritten, rfl⟩ := Option.map_eq_some_iff.mp hwrite
    by_cases hlocal : db.isLocalAt r.provider = true
    · exact Or.inl hlocal
    · by_cases hfield : data.associatedAuthenticators = none
      · by_cases hremoves : db.OnlyRemoves user data
        · exact Or.inr (Or.inr (Or.inr hremoves))
        · -- the uid has been checked for this authenticator
          obtain ⟨uid, huid, hfree⟩ :=
            hchecked hfield hremoves authenticators hauthenticators hne
          have hsame : written = uid := by
            rw [huid] at hwritten
            unfold updatedUid at hwritten
            split at hwritten
            · rw [if_neg fun hauto => hlocal hauto.1] at hwritten
              cases hwritten
            · rw [writtenUid, if_neg hlocal] at hwritten
              exact (Option.some.inj hwritten).symm
          refine absurd ?_ (hfree r.provider (hcurrent r hcollides.1))
          rw [← hsame]
          exact hcollides.2
      · exact Or.inr (Or.inl (Option.isSome_iff_ne_none.mpr hfield))

/-- The uid alone only re-labels. -/
theorem eq_of_mem_legacyUidPlan {uid : DbText} {ref : UserInstance} {w : RowWrite}
    (hw : w ∈ db.legacyUidPlan uid ref own) : w = .fail ∨ ∃ r r', w = .replace r r' := by
  unfold legacyUidPlan at hw
  split at hw
  · exact absurd hw List.not_mem_nil
  · rename_i target _
    split at hw
    · exact absurd hw List.not_mem_nil
    · rename_i r _
      dsimp only at hw
      generalize (if db.isLocalAt target then ref.username else uid) = written at hw
      split at hw
      · exact Or.inr ⟨_, _, List.mem_singleton.mp hw⟩
      · exact absurd hw List.not_mem_nil
    · exact Or.inl (List.mem_singleton.mp hw)

/-- The deprecated fields collide at unchecked writes only. -/
theorem reachesUnchecked_legacyPlan {ref : UserInstance} (hchecked : db.Checked user data)
    (h : Reaches AuthenticatorUser.key (db.Foreign user)
      (fun own w => w.Collides AuthenticatorUser.key (db.Foreign user) own) own
      (db.legacyPlan data.authenticators.join data.authenticatorUid ref own)) :
    Reaches AuthenticatorUser.key (db.Foreign user) (db.UncheckedCollision user data) own
      (db.legacyPlan data.authenticators.join data.authenticatorUid ref own) := by
  match hauthenticators : data.authenticators.join, huid : data.authenticatorUid with
  | none, none =>
      rw [hauthenticators, huid] at h
      exact h.elim
  | none, some uid =>
      rw [hauthenticators, huid] at h
      refine Reaches.and (P := fun _ => True) h (fun _ _ => trivial) ?_ ?_
      · intro w hw
        rcases eq_of_mem_legacyUidPlan hw with rfl | ⟨r, r', rfl⟩
        · trivial
        · exact id
      · intro w hw current _ hcollides
        rcases eq_of_mem_legacyUidPlan hw with rfl | ⟨r, r', rfl⟩
        · exact hcollides
        · exact Or.inr (Or.inr (Or.inl hauthenticators))
  | some [], uid =>
      rw [hauthenticators] at h
      rcases h with hw | ⟨-, hrest⟩
      · exact hw.elim
      · exact hrest.elim
  | some (choice :: choices), uid =>
      have hplan : db.legacyPlan (some (choice :: choices)) uid ref own =
          db.exchangePlan (choice :: choices) uid ref.toUserRef own ++
            db.uidsPlan uid ref (after own
              (db.exchangePlan (choice :: choices) uid ref.toUserRef own)) := rfl
      rw [hauthenticators, huid, hplan, reaches_append] at h
      rw [hplan, reaches_append]
      rcases h with (hw | ⟨hremove, hadd⟩) | ⟨hfits, huids⟩
      · exact hw.elim
      · exact Or.inl (Or.inr ⟨hremove, reachesUnchecked_addPlan hadd⟩)
      · rw [← huid] at huids ⊢
        exact Or.inr ⟨huid ▸ hfits, reachesUnchecked_uidsPlan hchecked hauthenticators
          (List.cons_ne_nil _ _) (forall_after_exchangePlan (huid ▸ hfits)) huids⟩

/-- The new field collides at local authenticators only: elsewhere its check is for the uids that
are written. -/
theorem reachesUnchecked_associatedPlan {ref : UserRef} {entries : List Entry}
    (h : Reaches AuthenticatorUser.key (db.Foreign user)
      (fun own w => w.Collides AuthenticatorUser.key (db.Foreign user) own) own
      (db.associatedPlan ref entries)) :
    Reaches AuthenticatorUser.key (db.Foreign user) (db.UncheckedCollision user data) own
      (db.associatedPlan ref entries) := by
  have hchecks : entries.map (fun e => (.check (e.provider, e.uid) : RowWrite)) =
      (entries.map fun e => (e.provider, e.uid)).map Write.check := by
    rw [List.map_map]
    rfl
  rw [associatedPlan, hchecks, reaches_append] at h ⊢
  rcases h with hcheck | ⟨hfits, hwrites⟩
  · exact absurd (collides_iff_reaches.mpr hcheck) (not_collides_checks _)
  · have hfree := (fits_checks_iff _).mp hfits
    refine Or.inr ⟨hfits, Reaches.and (P := fun _ => True) hwrites (fun _ _ => trivial) ?_ ?_⟩
    · intro w hw
      rcases List.mem_cons.mp hw with rfl | hinsert
      · trivial
      · obtain ⟨e, -, rfl⟩ := List.mem_map.mp hinsert
        trivial
    · intro w hw current _ hcollides
      rcases List.mem_cons.mp hw with rfl | hinsert
      · exact hcollides
      · obtain ⟨e, he, rfl⟩ := List.mem_map.mp hinsert
        by_contra hunchecked
        have hlocal : ¬db.isLocalAt e.provider = true := hunchecked
        have hkey : (db.entryRow ref e).key = (e.provider, e.uid) := by
          unfold entryRow AuthenticatorUser.key
          rw [if_neg hlocal]
        have hcollides' : db.Foreign user (db.entryRow ref e).key := hcollides
        rw [hkey] at hcollides'
        exact hfree _ (List.mem_map_of_mem he) hcollides'

/-- A request collides at unchecked writes only. -/
theorem reachesUnchecked_requestPlan {ref : UserInstance} (hchecked : db.Checked user data)
    (h : Reaches AuthenticatorUser.key (db.Foreign user)
      (fun own w => w.Collides AuthenticatorUser.key (db.Foreign user) own) own
      (db.requestPlan ref data own)) :
    Reaches AuthenticatorUser.key (db.Foreign user) (db.UncheckedCollision user data) own
      (db.requestPlan ref data own) := by
  unfold requestPlan at h ⊢
  rw [reaches_append] at h ⊢
  refine Or.imp (reachesUnchecked_legacyPlan hchecked) (fun hrest => ⟨hrest.1, ?_⟩) h
  have hfield := hrest.2
  cases hvalue : data.associatedAuthenticators with
  | none =>
      rw [hvalue] at hfield
      exact absurd hfield not_reaches_nil
  | some value =>
      rw [hvalue] at hfield
      exact reachesUnchecked_associatedPlan hfield

/-- A new username collides at local authenticators only. -/
theorem reachesUnchecked_renamePlan {determine : AuthenticatorUser → DbText} {stored : StoredUser}
    (h : Reaches AuthenticatorUser.key (db.Foreign user)
      (fun own w => w.Collides AuthenticatorUser.key (db.Foreign user) own) own
      (db.renamePlan determine stored data)) :
    Reaches AuthenticatorUser.key (db.Foreign user) (db.UncheckedCollision user data) own
      (db.renamePlan determine stored data) := by
  have hmem : ∀ w ∈ db.renamePlan determine stored data,
      ∃ r r', w = .replace r r' ∧ db.isLocalAt r.provider = true := by
    intro w hw
    unfold renamePlan at hw
    split at hw
    · obtain ⟨r, -, hwrite⟩ := List.mem_filterMap.mp hw
      obtain ⟨uid, huid, rfl⟩ := Option.map_eq_some_iff.mp hwrite
      refine ⟨r, _, rfl, ?_⟩
      unfold localUid at huid
      split at huid
      · assumption
      · cases huid
    · exact absurd hw List.not_mem_nil
  refine Reaches.and (P := fun _ => True) h (fun _ _ => trivial) ?_ ?_
  · intro w hw
    obtain ⟨r, r', rfl, -⟩ := hmem w hw
    exact id
  · intro w hw _ _ _
    obtain ⟨r, r', rfl, hlocal⟩ := hmem w hw
    exact Or.inl hlocal

end Reached

/-- Applying a request collides exactly if its plan does. -/
theorem perform_eq_taken_iff {determine : AuthenticatorUser → DbText} {action : Action}
    {stored : StoredUser} (hsound : db.Sound stored.pk data) :
    db.perform determine action stored data = .error .taken ↔
      db.PlanCollides stored.pk (db.performPlan determine action stored data) := by
  have hupdate : db.update determine stored data = .error .taken ↔
      db.PlanCollides stored.pk (db.updatePlan determine stored data) := by
    obtain ⟨result, hresult, hrealizes⟩ := db.realizes_update determine hsound
    rw [← hrealizes.taken_iff, hresult]
    cases result with
    | error e => simp [Except.map]
    | ok db' => simp [Except.map]
  cases action with
  | create => exact (db.realizes_create stored.pk hsound).taken_iff
  | put => exact hupdate
  | patch => exact hupdate

end AssociationDb

open AssociationDb

/-- For every valid request and every state: applying it does not come to the constraint of the
database that keeps a uid to one user, exactly if it reaches no unchecked write with a uid that
another user has. -/
theorem checksPreventCollisions_iff (db : AssociationDb) (validators : UserValidators)
    (determine : AuthenticatorUser → DbText) (superuser : Bool) (action : Action)
    (stored : StoredUser) (otherErrors : List String) (payload : UserPayload) (data : UserFields)
    (h : db.runValidation validators superuser action stored.pk otherErrors payload =
      .valid data) :
    db.perform determine action stored data ≠ .error .taken ↔
      ¬db.ReachesUnchecked determine action stored data := by
  obtain ⟨given, -, -, -, -, -, hvalidate⟩ := valid_of_runValidation h
  have hchecked := checked_of_validate hvalidate
  rw [ne_eq, perform_eq_taken_iff (sound_of_valid h), PlanCollides, collides_iff_reaches]
  refine not_congr ⟨fun hreaches => ?_, fun hreaches => hreaches.imp fun _ _ hw => hw.1⟩
  unfold ReachesUnchecked
  have hupdate : Reaches AuthenticatorUser.key (db.Foreign stored.pk)
      (fun own w => w.Collides AuthenticatorUser.key (db.Foreign stored.pk) own)
      (db.rowsOf stored.pk) (db.updatePlan determine stored data) →
      Reaches AuthenticatorUser.key (db.Foreign stored.pk) (db.UncheckedCollision stored.pk data)
        (db.rowsOf stored.pk) (db.updatePlan determine stored data) := by
    intro hplan
    rw [updatePlan, reaches_append] at hplan ⊢
    exact Or.imp reachesUnchecked_renamePlan
      (fun hrest => ⟨hrest.1, reachesUnchecked_requestPlan hchecked hrest.2⟩) hplan
  cases action with
  | create =>
      exact @reachesUnchecked_requestPlan
        (db.setUsername stored.pk (data.username.getD DbText.empty)) stored.pk data
        (db.rowsOf stored.pk) (newUser stored.pk data) hchecked hreaches
  | put => exact hupdate hreaches
  | patch => exact hupdate hreaches

/-! ## The condition by the fields of a request -/

namespace AssociationDb

section Cases

variable {db : AssociationDb} {determine : AuthenticatorUser → DbText} {action : Action}
  {stored : StoredUser} {data : UserFields} (hlocal : ∀ id, db.isLocalAt id = false)

include hlocal

/-- A new username is written at local authenticators only. -/
theorem renamePlan_of_not_local : db.renamePlan determine stored data = [] := by
  unfold renamePlan savePlan localUid
  simp [hlocal]

/-- The plan of an update without local authenticators. -/
theorem performPlan_of_not_local (hupdate : action ≠ .create) :
    db.performPlan determine action stored data =
      db.requestPlan (db.renamedUser determine stored data) data (db.rowsOf stored.pk) := by
  have hplan : db.updatePlan determine stored data =
      db.requestPlan (db.renamedUser determine stored data) data (db.rowsOf stored.pk) := by
    rw [updatePlan, renamePlan_of_not_local hlocal]
    rfl
  cases action with
  | create => exact absurd rfl hupdate
  | put => exact hplan
  | patch => exact hplan

/-- A list of authenticators that adds some, without the new field, covers everything. -/
theorem not_reachesUnchecked_of_adds (hfield : data.associatedAuthenticators = none)
    (hauthenticators : data.authenticators.join ≠ none) (hadds : ¬db.OnlyRemoves stored.pk data) :
    ¬db.ReachesUnchecked determine action stored data := by
  have hnone : ∀ w, ¬db.Unchecked stored.pk data w := by
    intro w hw
    cases w with
    | insert row => exact Bool.false_ne_true ((hlocal _).symm.trans hw)
    | replace row row' =>
        rcases hw with hw | hw | hw | hw
        · exact Bool.false_ne_true ((hlocal _).symm.trans hw)
        · rw [hfield] at hw
          cases hw
        · exact hauthenticators hw
        · exact hadds hw
    | remove p => exact hw
    | check k => exact hw
    | fail => exact hw
  intro hreaches
  obtain ⟨w, -, _, hw⟩ := hreaches.exists_mem
  exact hnone w hw.2

/-- The new field alone covers everything. -/
theorem not_reachesUnchecked_of_newField (hupdate : action ≠ .create)
    (hauthenticators : data.authenticators.join = none) (huid : data.authenticatorUid = none) :
    ¬db.ReachesUnchecked determine action stored data := by
  intro hreaches
  obtain ⟨w, hw, _, -, hunchecked⟩ := hreaches.exists_mem
  rw [performPlan_of_not_local hlocal hupdate, requestPlan, hauthenticators, huid] at hw
  rcases List.mem_append.mp hw with hlegacy | hfield
  · cases hlegacy
  · split at hfield
    · cases hfield
    · -- the field checks every uid, removes all rows and inserts others
      rcases List.mem_append.mp hfield with hcheck | hrest
      · obtain ⟨entry, -, rfl⟩ := List.mem_map.mp hcheck
        exact hunchecked
      · rcases List.mem_cons.mp hrest with rfl | hinsert
        · exact hunchecked
        · obtain ⟨entry, -, rfl⟩ := List.mem_map.mp hinsert
          exact Bool.false_ne_true ((hlocal _).symm.trans hunchecked)

/-- The uid alone is checked nowhere: it must not be another user's, where it is written. -/
theorem reachesUnchecked_uidOnly_iff (hupdate : action ≠ .create)
    (hauthenticators : data.authenticators.join = none)
    (hfield : data.associatedAuthenticators = none) {uid : DbText}
    (huid : data.authenticatorUid = some uid) {target : ℕ}
    (htarget : stored.lastLoginFrom = some target) {r : AuthenticatorUser}
    (hrows : (db.rowsOf stored.pk).filter (·.provider = target) = [r]) :
    db.ReachesUnchecked determine action stored data ↔
      r.uid ≠ uid ∧ db.Foreign stored.pk (target, uid) := by
  have hr : r ∈ (db.rowsOf stored.pk).filter (·.provider = target) := by
    rw [hrows]
    exact List.mem_singleton_self r
  obtain ⟨hown, hprovider⟩ := List.mem_filter.mp hr
  have hplan : db.performPlan determine action stored data =
      if r.uid ≠ uid then [.replace r { r with uid }] else [] := by
    have hlast : (db.renamedUser determine stored data).lastLoginFrom = some target := by
      rw [renamedUser]
      split_ifs <;> exact htarget
    rw [performPlan_of_not_local hlocal hupdate, requestPlan, hauthenticators, huid, hfield,
      List.append_nil, legacyPlan, legacyUidPlan, hlast]
    simp only [hrows, hlocal, Bool.false_eq_true, if_false]
  have hkey : ({ r with uid } : AuthenticatorUser).key = (target, uid) := by
    rw [← of_decide_eq_true hprovider]
    rfl
  rw [ReachesUnchecked, hplan]
  by_cases hsame : r.uid = uid
  · rw [if_neg (not_not.mpr hsame)]
    exact ⟨False.elim, fun h => absurd hsame h.1⟩
  · rw [if_pos hsame]
    constructor
    · rintro (⟨⟨-, hforeign⟩, -⟩ | ⟨-, hrest⟩)
      · exact ⟨hsame, hkey ▸ hforeign⟩
      · exact hrest.elim
    · rintro ⟨-, hforeign⟩
      exact Or.inl ⟨⟨hown, hkey.symm ▸ hforeign⟩, Or.inr (Or.inr (Or.inl hauthenticators))⟩

end Cases

end AssociationDb

/-! ## The uid alone -/

/-- Two users of an LDAP authenticator. -/
def twoUsers : AssociationDb where
  authenticators := ldapUser.authenticators
  usernames := fun user => if user = 1 then .lit "anna" else .lit "bert"
  emails := fun _ => ""
  rows := [⟨2, 1, .lit "a", none⟩, ⟨2, 2, .lit "b", none⟩]
  unique := by decide
  provider_mem := by decide

/-- The first user, last logged in with LDAP. -/
def anna : StoredUser where
  pk := 1
  lastLoginFrom := some 2
  prefetch := true

/-- A request with a uid alone. -/
def uidPayload (uid : String) : UserPayload where
  username := none
  authenticators := none
  authenticatorUid := some (.str uid)
  associatedAuthenticators := none

/-- A uid that no other user has is written. -/
theorem checksPreventCollisions_freeUid :
    twoUsers.runValidation openValidators true .patch 1 [] (uidPayload "c") =
        .valid ⟨none, none, some (.lit "c"), none⟩ ∧
      ¬twoUsers.ReachesUnchecked AuthenticatorUser.uid .patch anna
        ⟨none, none, some (.lit "c"), none⟩ := by
  have hvalid : twoUsers.runValidation openValidators true .patch 1 [] (uidPayload "c") =
      .valid ⟨none, none, some (.lit "c"), none⟩ := rfl
  have hok : ∃ db', twoUsers.perform AuthenticatorUser.uid .patch anna
      ⟨none, none, some (.lit "c"), none⟩ = .ok db' := ⟨_, rfl⟩
  obtain ⟨db', hok⟩ := hok
  refine ⟨hvalid, (checksPreventCollisions_iff twoUsers openValidators AuthenticatorUser.uid true
    .patch anna [] (uidPayload "c") _ hvalid).mp ?_⟩
  rw [hok]
  exact fun h => nomatch h

/-- The uid alone is checked nowhere. The other user's passes the validation, and the database
refuses the row. -/
theorem not_checksPreventCollisions_uidOnly :
    twoUsers.runValidation openValidators true .patch 1 [] (uidPayload "b") =
        .valid ⟨none, none, some (.lit "b"), none⟩ ∧
      twoUsers.perform AuthenticatorUser.uid .patch anna ⟨none, none, some (.lit "b"), none⟩ =
        .error .taken :=
  ⟨rfl, rfl⟩

end AapGateway.Users
