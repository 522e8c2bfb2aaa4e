import AapGateway.Users.LocalIdentity
import AapGateway.Users.UidCollisions

/-!
# The new field beside the deprecated ones

A request may have `associated_authenticators` beside the deprecated fields. The deprecated fields
are then not checked against each other, but they are validated one by one and applied before the
new field. What they write is replaced by the new field; what they refuse or break is not undone.

## Main definitions

* `AssociationDb.outcome`: the rows of the user after a request, if it is accepted;
* `AssociationDb.LegacyPasses`: the deprecated fields let a request pass.

## Main results

* `isOk_perform_iff`: a request with the new field can be applied if both kinds of fields can;
* `precedence_iff`: when the outcome is the one without the deprecated fields;
* `not_precedence_takenUid`: a uid of another user in the deprecated field.
-/

namespace AapGateway.Users

open UniqueWrites

/-- The request without the deprecated fields. -/
def UserPayload.withoutDeprecated (payload : UserPayload) : UserPayload :=
  { payload with authenticators := none, authenticatorUid := none }

namespace AssociationDb

/-- The rows of the user after a request, or none if the request is not accepted. -/
def outcome (db : AssociationDb) (validators : UserValidators)
    (determine : AuthenticatorUser → DbText) (superuser : Bool) (action : Action)
    (stored : StoredUser) (otherErrors : List String) (payload : UserPayload) :
    Option (List AuthenticatorUser) :=
  match db.runValidation validators superuser action stored.pk otherErrors payload with
  | .valid data =>
    match db.perform determine action stored data with
    | .ok db' => some (db'.rowsOf stored.pk)
    | .error _ => none
  | _ => none

/-- The instance that the fields of a request are applied to, when it has the new one. -/
def requestInstance (db : AssociationDb) (action : Action) (stored : StoredUser)
    (data : UserFields) : UserInstance :=
  match action with
  | .create => newUser stored.pk data
  | .put | .patch => { db.load stored with username := db.newUsername stored data }

/-- The deprecated fields can be applied to the rows of the user. -/
def LegacyFits (db : AssociationDb) (action : Action) (stored : StoredUser) (data : UserFields) :
    Prop :=
  db.PlanFits stored.pk (db.legacyPlan data.authenticators.join data.authenticatorUid
    (db.requestInstance action stored data) (db.rowsOf stored.pk))

/-- The entries of the new field can be applied: no uid that is checked and none that is written is
another user's, and none is written twice. -/
def FieldFits (db : AssociationDb) (user : UserRef) (entries : List Entry) : Prop :=
  (∀ e ∈ entries, ¬db.Foreign user.pk (e.provider, e.uid)) ∧
    ((entries.map (db.entryRow user)).map AuthenticatorUser.key).Nodup ∧
    ∀ e ∈ entries, ¬db.Foreign user.pk (db.entryRow user e).key

/-- A request without the deprecated fields and with this value of the new one. -/
def fieldAlone (payload : UserPayload) (submitted : Dict Json) : UserFields where
  username := payload.username
  authenticators := none
  authenticatorUid := none
  associatedAuthenticators := some submitted

/-- The deprecated fields let the request pass with this value of the new one: each is valid, the
base classes do not refuse them, a partial update finds a uid, and they can be applied. -/
def LegacyPasses (db : AssociationDb) (validators : UserValidators) (action : Action)
    (stored : StoredUser) (payload : UserPayload) (submitted : Dict Json) (data : UserFields) :
    Prop :=
  ∃ given : UserFields, given.username = payload.username ∧
    given.associatedAuthenticators = some submitted ∧
    Stage.optional db.toAuthenticators payload.authenticators = .valid given.authenticators ∧
    Stage.optional (toAuthenticatorUid validators.numberText) payload.authenticatorUid =
      .valid given.authenticatorUid ∧
    validators.refuses given = none ∧ db.handlePartialUpdate action stored.pk given = .valid data ∧
    db.LegacyFits action stored data

/-- The request is accepted with this value and without the deprecated fields. -/
def AcceptsAlone (db : AssociationDb) (validators : UserValidators) (action : Action)
    (stored : StoredUser) (payload : UserPayload) (submitted : Dict Json) : Prop :=
  validators.refuses (fieldAlone payload submitted) = none ∧
    db.FieldFits ⟨stored.pk, db.usernameAfter action stored (fieldAlone payload submitted)⟩
      (entriesOf submitted)

/-- The deprecated fields can make a request pass: the base classes refuse it without them, or an
empty list of authenticators brings the old username back before a local entry. -/
def LegacyHelps (db : AssociationDb) (validators : UserValidators) (action : Action)
    (stored : StoredUser) (payload : UserPayload) (submitted : Dict Json) (data : UserFields) :
    Prop :=
  validators.refuses (fieldAlone payload submitted) ≠ none ∨ db.ReloadsUsername action stored data

variable {db : AssociationDb} {validators : UserValidators}
  {determine : AuthenticatorUser → DbText} {superuser : Bool} {action : Action}
  {stored : StoredUser} {otherErrors : List String} {payload : UserPayload} {data : UserFields}
  {submitted : Dict Json} {value : Json}

/-! ## When a request is accepted -/

/-- A request with the new field is valid if each field is, and no uid is lacking. -/
theorem runValidation_eq_valid_iff (hvalue : payload.associatedAuthenticators = some value) :
    db.runValidation validators superuser action stored.pk otherErrors payload = .valid data ↔
      ∃ submitted given, db.validateField validators.validEmail superuser stored.pk ⟨value, false⟩ =
          .valid submitted ∧ otherErrors = [] ∧ given.username = payload.username ∧
        given.associatedAuthenticators = some submitted ∧
        Stage.optional db.toAuthenticators payload.authenticators = .valid given.authenticators ∧
        Stage.optional (toAuthenticatorUid validators.numberText) payload.authenticatorUid =
          .valid given.authenticatorUid ∧
        validators.refuses given = none ∧
        db.handlePartialUpdate action stored.pk given = .valid data := by
  constructor
  · intro h
    obtain ⟨given, husername, hauthenticators, huid, hassociated, herrors, hvalidate⟩ :=
      valid_of_runValidation h
    obtain ⟨hrefuses, hcompleted, -⟩ := valid_of_validate hvalidate
    rw [hvalue] at hassociated
    rcases optional_eq_valid hassociated with ⟨hnone, -⟩ | ⟨json, submitted, hjson, hfield, hsome⟩
    -- The field was submitted, so that it is validated.
    · cases hnone
    · obtain rfl := Option.some.inj hjson
      exact ⟨submitted, given, hfield, herrors, husername, hsome, hauthenticators, huid, hrefuses,
        hcompleted⟩
  · rintro ⟨submitted, given, hfield, rfl, husername, hsome, hauthenticators, huid, hrefuses,
      hcompleted⟩
    unfold runValidation
    rw [hvalue, Stage.optional, hfield, hauthenticators, huid]
    -- With these values the validated fields are `given`.
    show db.validate validators action stored.pk ⟨payload.username, given.authenticators,
      given.authenticatorUid, some submitted⟩ = _
    rw [← husername, ← hsome]
    unfold validate
    rw [hrefuses, hcompleted]
    show (if given.associatedAuthenticators.isSome = true then _ else _) = _
    rw [hsome]
    rfl

/-- The plan of the deprecated fields, and then of the new one, fits if both do. -/
theorem planFits_append_iff {plan : List RowWrite} {user : UserRef} {entries : List Entry} :
    db.PlanFits user.pk (plan ++ db.associatedPlan user entries) ↔
      db.PlanFits user.pk plan ∧ db.FieldFits user entries := by
  unfold PlanFits FieldFits
  rw [fits_append, fits_associatedPlan_iff]

/-- The username with which the new field is applied in an update. -/
theorem fieldUsername_of_ne_create (haction : action ≠ .create) :
    db.fieldUsername action stored data = if data.authenticators.join = some [] then
      db.usernames stored.pk else db.newUsername stored data := by
  cases action with
  | create => exact absurd rfl haction
  | put | patch => simp [fieldUsername, usernameAfter, newUsername]

/-- A request with the new field can be applied exactly if the deprecated fields can, and then the
new one. -/
theorem isOk_perform_iff (hsound : db.Sound stored.pk data)
    (hvalue : data.associatedAuthenticators = some submitted) :
    (∃ db', db.perform determine action stored data = .ok db') ↔
      db.LegacyFits action stored data ∧
        db.FieldFits ⟨stored.pk, db.fieldUsername action stored data⟩ (entriesOf submitted) := by
  have hupdate : (∃ db', db.update determine stored data = .ok db') ↔
      db.PlanFits stored.pk (db.legacyPlan data.authenticators.join data.authenticatorUid
        { db.load stored with username := db.newUsername stored data } (db.rowsOf stored.pk)) ∧
      db.FieldFits ⟨stored.pk, if data.authenticators.join = some [] then db.usernames stored.pk
        else db.newUsername stored data⟩ (entriesOf submitted) := by
    -- A request with the new field does not rename the local rows by itself.
    have hrenames : ¬db.Renames stored data := fun h => by
      have hnone := h.2
      rw [hvalue] at hnone
      cases hnone
    have huser : (db.legacyUser data.authenticators.join
        { db.load stored with username := db.newUsername stored data }).toUserRef =
        ⟨stored.pk, if data.authenticators.join = some [] then db.usernames stored.pk
          else db.newUsername stored data⟩ := by
      unfold legacyUser
      split <;> rfl
    rw [isOk_update_iff hsound, updatePlan, renamePlan, if_neg hrenames, renamedUser]
    dsimp only
    rw [if_neg hrenames, requestPlan, hvalue, huser]
    generalize (if data.authenticators.join = some [] then db.usernames stored.pk
      else db.newUsername stored data) = name
    exact @planFits_append_iff db _ ⟨stored.pk, name⟩ (entriesOf submitted)
  cases action with
  | create =>
      -- The user is there with its username before any of the fields is applied.
      have huser : ((db.setUsername stored.pk (data.username.getD DbText.empty)).legacyUser
          data.authenticators.join (newUser stored.pk data)).toUserRef =
          ⟨stored.pk, data.username.getD DbText.empty⟩ := by
        unfold legacyUser newUser setUsername
        split
        · simp
        · rfl
      have hcreate := (db.realizes_create stored.pk hsound).isOk_iff
      rw [requestPlan, hvalue, huser] at hcreate
      exact hcreate.trans (@planFits_append_iff
        (db.setUsername stored.pk (data.username.getD DbText.empty)) _
        ⟨stored.pk, data.username.getD DbText.empty⟩ _)
  | put | patch =>
      rw [fieldUsername_of_ne_create (by decide)]
      exact hupdate

/-- A partial update keeps the username and the new field. -/
theorem completed_field {given : UserFields}
    (h : db.handlePartialUpdate action stored.pk given = .valid data) :
    data.username = given.username ∧
      data.associatedAuthenticators = given.associatedAuthenticators := by
  rw [(completed_eq h).1]
  exact ⟨rfl, rfl⟩

/-- The rows after a request with the new field. -/
theorem outcome_eq_some_iff (hvalue : payload.associatedAuthenticators = some value)
    {rows : List AuthenticatorUser} :
    db.outcome validators determine superuser action stored otherErrors payload = some rows ↔
      ∃ submitted data, db.validateField validators.validEmail superuser stored.pk ⟨value, false⟩ =
          .valid submitted ∧ otherErrors = [] ∧
        db.LegacyPasses validators action stored payload submitted data ∧
        db.FieldFits ⟨stored.pk, db.fieldUsername action stored data⟩ (entriesOf submitted) ∧
        rows = (entriesOf submitted).map
          (db.entryRow ⟨stored.pk, db.fieldUsername action stored data⟩) := by
  constructor
  · intro h
    unfold outcome at h
    split at h
    · rename_i data hvalid
      split at h
      · rename_i db' hok
        obtain ⟨submitted, given, hfield, herrors, husername, hsome, hauthenticators, huid,
          hrefuses,
          hcompleted⟩ := (runValidation_eq_valid_iff hvalue).mp hvalid
        have hdata := (completed_field hcompleted).2.trans hsome
        have hsound := sound_of_valid hvalid
        obtain ⟨hlegacy, hfits⟩ := (isOk_perform_iff hsound hdata).mp ⟨db', hok⟩
        refine ⟨submitted, data, hfield, herrors, ⟨given, husername, hsome, hauthenticators, huid,
          hrefuses, hcompleted, hlegacy⟩, hfits, ?_⟩
        rw [← Option.some.inj h]
        exact rowsOf_perform hsound hdata hok
      -- The user whose update fails has no rows to compare.
      · cases h
    · cases h
  · rintro ⟨submitted, data, hfield, herrors, ⟨given, husername, hsome, hauthenticators, huid,
      hrefuses, hcompleted, hlegacy⟩, hfits, rfl⟩
    have hvalid : db.runValidation validators superuser action stored.pk otherErrors payload =
        .valid data := (runValidation_eq_valid_iff hvalue).mpr ⟨submitted, given, hfield, herrors,
      husername, hsome, hauthenticators, huid, hrefuses, hcompleted⟩
    have hdata := (completed_field hcompleted).2.trans hsome
    have hsound := sound_of_valid hvalid
    obtain ⟨db', hok⟩ := (@isOk_perform_iff db determine action stored data submitted hsound
      hdata).mpr ⟨hlegacy, hfits⟩
    unfold outcome
    rw [hvalid]
    dsimp only
    rw [hok]
    exact congrArg some (rowsOf_perform hsound hdata hok)

/-- Without the deprecated fields there is nothing that they could refuse or break. -/
theorem legacyPasses_withoutDeprecated_iff :
    db.LegacyPasses validators action stored payload.withoutDeprecated submitted data ↔
      validators.refuses (fieldAlone payload submitted) = none ∧
        data = fieldAlone payload submitted := by
  have halone : db.handlePartialUpdate action stored.pk (fieldAlone payload submitted) =
      .valid (fieldAlone payload submitted) := if_neg fun h => nomatch h.2.1
  constructor
  · rintro ⟨given, husername, hsome, hauthenticators, huid, hrefuses, hcompleted, -⟩
    have hgiven : given = fieldAlone payload submitted := by
      obtain ⟨name, authenticators, uid, field⟩ := given
      obtain rfl : name = payload.username := husername
      obtain rfl : field = some submitted := hsome
      obtain rfl : authenticators = none := (Stage.valid.inj hauthenticators).symm
      obtain rfl : uid = none := (Stage.valid.inj huid).symm
      rfl
    rw [hgiven] at hrefuses hcompleted
    exact ⟨hrefuses, (Stage.valid.inj (halone.symm.trans hcompleted)).symm⟩
  · rintro ⟨hrefuses, rfl⟩
    exact ⟨fieldAlone payload submitted, rfl, rfl, rfl, rfl, hrefuses, halone, trivial⟩

/-- The deprecated fields determine what is applied. -/
theorem LegacyPasses.unique {data' : UserFields}
    (h : db.LegacyPasses validators action stored payload submitted data)
    (h' : db.LegacyPasses validators action stored payload submitted data') : data = data' := by
  obtain ⟨given, husername, hsome, hauthenticators, huid, -, hcompleted, -⟩ := h
  obtain ⟨given', husername', hsome', hauthenticators', huid', -, hcompleted', -⟩ := h'
  have hgiven : given = given' := by
    obtain ⟨name, authenticators, uid, field⟩ := given
    obtain ⟨name', authenticators', uid', field'⟩ := given'
    obtain rfl : name = name' := husername.trans husername'.symm
    obtain rfl : field = field' := hsome.trans hsome'.symm
    obtain rfl : authenticators = authenticators' :=
      Stage.valid.inj (hauthenticators.symm.trans hauthenticators')
    obtain rfl : uid = uid' := Stage.valid.inj (huid.symm.trans huid')
    rfl
  rw [hgiven] at hcompleted
  exact Stage.valid.inj (hcompleted.symm.trans hcompleted')

/-- The username that the user is to have does not depend on the deprecated fields. -/
theorem LegacyPasses.usernameAfter_eq
    (h : db.LegacyPasses validators action stored payload submitted data) :
    db.usernameAfter action stored data =
      db.usernameAfter action stored (fieldAlone payload submitted) := by
  obtain ⟨given, husername, -, -, -, -, hcompleted, -⟩ := h
  have hdata : data.username = payload.username := (completed_field hcompleted).1.trans husername
  unfold usernameAfter fieldAlone
  rw [hdata]

/-- Without a reload of the old username the new field writes the same rows. -/
theorem entryRow_eq_of_not_reloads (hdata : data.associatedAuthenticators = some submitted)
    (hreload : ¬db.ReloadsUsername action stored data) :
    ∀ e ∈ entriesOf submitted,
      db.entryRow ⟨stored.pk, db.fieldUsername action stored data⟩ e =
        db.entryRow ⟨stored.pk, db.usernameAfter action stored data⟩ e := by
  intro e he
  by_cases hname : db.fieldUsername action stored data = db.usernameAfter action stored data
  · rw [hname]
  · -- The usernames differ, so there is no local entry, and other entries do not read them.
    obtain ⟨haction, hempty, hne⟩ := fieldUsername_ne_iff.mp hname
    have hlocal : ¬db.isLocalAt e.provider = true := fun hlocal =>
      hreload ⟨haction, hempty, hne, submitted, hdata, e, he, hlocal⟩
    unfold entryRow
    rw [if_neg hlocal, if_neg hlocal]

/-- Whether the new field can be applied depends on the rows that it writes. -/
theorem fieldFits_congr {user user' : UserRef} {entries : List Entry} (hpk : user.pk = user'.pk)
    (h : ∀ e ∈ entries, db.entryRow user e = db.entryRow user' e) :
    db.FieldFits user entries ↔ db.FieldFits user' entries := by
  unfold FieldFits
  rw [hpk, List.map_congr_left h]
  refine and_congr_right fun _ => and_congr_right fun _ => ?_
  refine forall_congr' fun e => forall_congr' fun he => ?_
  rw [h e he]

/-- The rows after the request without the deprecated fields. -/
theorem outcome_withoutDeprecated_eq_some_iff
    (hvalue : payload.associatedAuthenticators = some value)
    {rows : List AuthenticatorUser} :
    db.outcome validators determine superuser action stored otherErrors payload.withoutDeprecated =
        some rows ↔
      ∃ submitted, db.validateField validators.validEmail superuser stored.pk ⟨value, false⟩ =
          .valid submitted ∧ otherErrors = [] ∧
        db.AcceptsAlone validators action stored payload submitted ∧
        rows = (entriesOf submitted).map (db.entryRow
          ⟨stored.pk, db.usernameAfter action stored (fieldAlone payload submitted)⟩) := by
  have hname : ∀ submitted, db.fieldUsername action stored (fieldAlone payload submitted) =
      db.usernameAfter action stored (fieldAlone payload submitted) :=
    fun submitted => if_neg fun h => nomatch h.2
  have hvalue' : payload.withoutDeprecated.associatedAuthenticators = some value := hvalue
  rw [outcome_eq_some_iff hvalue']
  refine exists_congr fun submitted => ?_
  constructor
  · rintro ⟨data, hfield, herrors, hpasses, hfits, hrows⟩
    obtain ⟨hrefuses, rfl⟩ := legacyPasses_withoutDeprecated_iff.mp hpasses
    rw [hname] at hfits hrows
    exact ⟨hfield, herrors, ⟨hrefuses, hfits⟩, hrows⟩
  · rintro ⟨hfield, herrors, ⟨hrefuses, hfits⟩, hrows⟩
    refine ⟨_, hfield, herrors, legacyPasses_withoutDeprecated_iff.mpr ⟨hrefuses, rfl⟩, ?_, ?_⟩
    · rwa [hname]
    · rwa [hname]

/-- With deprecated fields that pass and do not reload the old username, the new field can be
applied, and writes the rows, as without them. -/
theorem LegacyPasses.same (h : db.LegacyPasses validators action stored payload submitted data)
    (hreload : ¬db.ReloadsUsername action stored data) :
    (db.FieldFits ⟨stored.pk, db.fieldUsername action stored data⟩ (entriesOf submitted) ↔
      db.FieldFits ⟨stored.pk, db.usernameAfter action stored (fieldAlone payload submitted)⟩
        (entriesOf submitted)) ∧
    (entriesOf submitted).map (db.entryRow ⟨stored.pk, db.fieldUsername action stored data⟩) =
      (entriesOf submitted).map (db.entryRow
        ⟨stored.pk, db.usernameAfter action stored (fieldAlone payload submitted)⟩) := by
  have hdata : data.associatedAuthenticators = some submitted := by
    obtain ⟨given, -, hsome, -, -, -, hcompleted, -⟩ := h
    exact (completed_field hcompleted).2.trans hsome
  have hrows := entryRow_eq_of_not_reloads hdata hreload
  rw [h.usernameAfter_eq] at hrows
  exact ⟨fieldFits_congr rfl hrows, List.map_congr_left hrows⟩

/-- With a reload of the old username before a local entry the new field writes other rows. -/
theorem LegacyPasses.not_same (h : db.LegacyPasses validators action stored payload submitted data)
    (hreload : db.ReloadsUsername action stored data) :
    (entriesOf submitted).map (db.entryRow ⟨stored.pk, db.fieldUsername action stored data⟩) ≠
      (entriesOf submitted).map (db.entryRow
        ⟨stored.pk, db.usernameAfter action stored (fieldAlone payload submitted)⟩) := by
  obtain ⟨haction, hempty, hne, value, hvalue, e, he, hlocal⟩ := hreload
  have hdata : data.associatedAuthenticators = some submitted := by
    obtain ⟨given, -, hsome, -, -, -, hcompleted, -⟩ := h
    exact (completed_field hcompleted).2.trans hsome
  obtain rfl := Option.some.inj (hvalue.symm.trans hdata)
  intro hsame
  -- The uid of the local entry is the username.
  have hrow := List.map_inj_left.mp hsame e he
  have huid := congrArg AuthenticatorUser.uid hrow
  unfold entryRow at huid
  dsimp only at huid
  rw [if_pos hlocal, if_pos hlocal, ← h.usernameAfter_eq] at huid
  exact fieldUsername_ne_iff.mpr ⟨haction, hempty, hne⟩ huid

end AssociationDb

open AssociationDb

/-- For every request with a value of the new field, and every state: the outcome is that of the
request without the deprecated fields exactly if, for a value that is valid, the deprecated fields
let pass what would be accepted without them and do not reload the old username before a local
entry, and where they could make a request pass that is not accepted without them, the uids of the
new field cannot be written beside them either. -/
theorem precedence_iff (db : AssociationDb) (validators : UserValidators)
    (determine : AuthenticatorUser → DbText) (superuser : Bool) (action : Action)
    (stored : StoredUser) (otherErrors : List String) (payload : UserPayload) (value : Json)
    (hvalue : payload.associatedAuthenticators = some value) :
    db.outcome validators determine superuser action stored otherErrors payload =
        db.outcome validators determine superuser action stored otherErrors
          payload.withoutDeprecated ↔
      ∀ submitted, db.validateField validators.validEmail superuser stored.pk ⟨value, false⟩ =
          .valid submitted → otherErrors = [] →
        (db.AcceptsAlone validators action stored payload submitted →
          ∃ data, db.LegacyPasses validators action stored payload submitted data ∧
            ¬db.ReloadsUsername action stored data) ∧
        (¬db.AcceptsAlone validators action stored payload submitted →
          ∀ data, db.LegacyPasses validators action stored payload submitted data →
            db.LegacyHelps validators action stored payload submitted data →
              ¬db.FieldFits ⟨stored.pk, db.fieldUsername action stored data⟩
                (entriesOf submitted)) := by
  constructor
  · intro hsame submitted hfield herrors
    constructor
    · -- The rows are those without the deprecated fields, and no reload gives these.
      intro halone
      have hrows := (@outcome_withoutDeprecated_eq_some_iff db validators determine superuser action
        stored otherErrors payload value hvalue _).mpr ⟨submitted, hfield, herrors, halone, rfl⟩
      rw [← hsame] at hrows
      obtain ⟨submitted', data, hfield', -, hpasses, -, heq⟩ :=
        (outcome_eq_some_iff hvalue).mp hrows
      obtain rfl := Stage.valid.inj (hfield.symm.trans hfield')
      exact ⟨data, hpasses, fun hreload => hpasses.not_same hreload heq.symm⟩
    · -- With fields that can be applied the request would have an outcome.
      intro halone data hpasses _ hfits
      have hrows := (@outcome_eq_some_iff db validators determine superuser action stored
        otherErrors payload value hvalue _).mpr
          ⟨submitted, data, hfield, herrors, hpasses, hfits, rfl⟩
      rw [hsame] at hrows
      obtain ⟨submitted', hfield', -, halone', -⟩ :=
        (outcome_withoutDeprecated_eq_some_iff hvalue).mp hrows
      obtain rfl := Stage.valid.inj (hfield.symm.trans hfield')
      exact halone halone'
  · intro h
    refine Option.ext fun rows => ?_
    rw [outcome_eq_some_iff hvalue, outcome_withoutDeprecated_eq_some_iff hvalue]
    constructor
    · rintro ⟨submitted, data, hfield, herrors, hpasses, hfits, rfl⟩
      obtain ⟨hpass, hstop⟩ := h submitted hfield herrors
      by_cases halone : db.AcceptsAlone validators action stored payload submitted
      · obtain ⟨data', hpasses', hreload⟩ := hpass halone
        obtain rfl := hpasses.unique hpasses'
        exact ⟨submitted, hfield, herrors, halone, (hpasses.same hreload).2⟩
      · by_cases hhelps : db.LegacyHelps validators action stored payload submitted data
        · exact absurd hfits (hstop halone data hpasses hhelps)
        · -- Otherwise the new field is applied as without the deprecated ones.
          obtain ⟨hrefuses, hreload⟩ := not_or.mp hhelps
          exact absurd ⟨not_not.mp hrefuses, (hpasses.same hreload).1.mp hfits⟩ halone
    · rintro ⟨submitted, hfield, herrors, halone, rfl⟩
      obtain ⟨data, hpasses, hreload⟩ := (h submitted hfield herrors).1 halone
      obtain ⟨hfits, hrows⟩ := hpasses.same hreload
      exact ⟨submitted, data, hfield, herrors, hpasses, hfits.mpr halone.2, hrows.symm⟩

/-! ## A uid of another user -/

/-- The first user's uid in the new field, and this one in the deprecated field. -/
def bothPayload (uid : String) : UserPayload where
  username := none
  authenticators := none
  authenticatorUid := some (.str uid)
  associatedAuthenticators := some (.obj [uidItem "2" "a"])

/-- The new field alone is accepted. -/
theorem acceptsAlone_bothPayload (uid : String) :
    twoUsers.AcceptsAlone openValidators .patch anna (bothPayload uid)
      (Dict.ofList [uidItem "2" "a"]) := by
  have hentries : entriesOf (Dict.ofList [uidItem "2" "a"]) = [⟨2, .lit "a", none⟩] := by
    have hitems : (Dict.ofList [uidItem "2" "a"]).items = [uidItem "2" "a"] := rfl
    have hkey : pyInt "2" = some 2 := @pyInt_key 2 (by decide)
    rw [entriesOf, hitems]
    unfold uidItem
    simp only [readEntry, List.filterMap, hkey]
    rfl
  have hfree : ¬twoUsers.Foreign 1 (2, .lit "a") := by
    rw [← isSome_uidConflict?_iff]
    decide
  refine ⟨rfl, ?_⟩
  rw [hentries]
  refine ⟨?_, List.nodup_singleton _, ?_⟩
  · rintro e he
    rw [List.mem_singleton.mp he]
    exact hfree
  · rintro e he
    rw [List.mem_singleton.mp he]
    exact hfree

/-- The new field is the value on record. -/
theorem validateField_bothPayload :
    twoUsers.validateField openValidators.validEmail true anna.pk
      ⟨.obj [uidItem "2" "a"], false⟩ = .valid (Dict.ofList [uidItem "2" "a"]) := rfl

/-- A uid that no other user has leaves the outcome as it is. -/
theorem precedence_freeUid :
    twoUsers.outcome openValidators AuthenticatorUser.uid true .patch anna [] (bothPayload "c") =
      twoUsers.outcome openValidators AuthenticatorUser.uid true .patch anna []
        (bothPayload "c").withoutDeprecated := by
  refine (precedence_iff twoUsers openValidators AuthenticatorUser.uid true .patch anna []
    (bothPayload "c") (.obj [uidItem "2" "a"]) rfl).mpr fun submitted hfield _ => ?_
  obtain rfl := Stage.valid.inj (validateField_bothPayload.symm.trans hfield)
  refine ⟨fun _ => ⟨⟨none, none, some (.lit "c"), some (Dict.ofList [uidItem "2" "a"])⟩, ?_, ?_⟩,
    fun halone => absurd (acceptsAlone_bothPayload "c") halone⟩
  · refine ⟨⟨none, none, some (.lit "c"), some (Dict.ofList [uidItem "2" "a"])⟩, rfl, rfl, rfl, rfl,
      rfl, if_neg (fun h => nomatch h.2.1), ?_⟩
    have hfree : ¬twoUsers.Foreign 1 (2, .lit "c") := by
      rw [← isSome_uidConflict?_iff]
      decide
    exact ⟨⟨by decide, hfree, by decide⟩, trivial⟩
  · exact fun hreload => nomatch hreload.2.1

/-- The deprecated field re-labels the row with the uid of the other user before the new field is
applied, and the request fails. Without it the request is accepted. -/
theorem not_precedence_takenUid :
    twoUsers.outcome openValidators AuthenticatorUser.uid true .patch anna [] (bothPayload "b") ≠
      twoUsers.outcome openValidators AuthenticatorUser.uid true .patch anna []
        (bothPayload "b").withoutDeprecated := by
  have hrows := (@outcome_withoutDeprecated_eq_some_iff twoUsers openValidators
    AuthenticatorUser.uid true .patch anna [] (bothPayload "b") (.obj [uidItem "2" "a"]) rfl
    _).mpr ⟨_, validateField_bothPayload, rfl, acceptsAlone_bothPayload "b", rfl⟩
  have hnone : twoUsers.outcome openValidators AuthenticatorUser.uid true .patch anna []
      (bothPayload "b") = none := rfl
  rw [hrows, hnone]
  exact fun h => nomatch h

end AapGateway.Users
