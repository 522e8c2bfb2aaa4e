import AapGateway.Users.AssociatedAuthenticators

/-!
# Validation of user requests

`UserSerializer` takes the authenticator associations of a user in three fields. The deprecated ones
are `authenticators`, a list of ids, and `authenticator_uid`, one uid for all of them;
`associated_authenticators` maps ids to uids. The fields are validated one by one, and then
`validate` looks at them together. The deprecated fields are checked there only if the new one is
absent.

What the base classes refuse, and the errors of the other fields, are parameters.

## Main definitions

* `UserPayload` and `UserFields`: the fields of a request, before and after their own validation;
* `AssociationDb.validate`: the checks of the fields together;
* `AssociationDb.runValidation`: the validation of a request.
-/

namespace AapGateway.Users

/-- What a request does. -/
inductive Action where
  | create
  | put
  | patch
  deriving DecidableEq, Repr

/-- An item of `authenticators`: the empty choice, or the id of an authenticator. -/
inductive Choice where
  | blank
  | id (n : ℕ)
  deriving DecidableEq, Repr

/-- The fields of a request that its validation or its application looks at. -/
structure UserPayload where
  /-- The username, if its own validation lets it pass. -/
  username : Option DbText
  authenticators : Option Json
  authenticatorUid : Option Json
  associatedAuthenticators : Option Json

/-- The same fields as they are validated. A list of authenticators may be null. -/
structure UserFields where
  username : Option DbText
  authenticators : Option (Option (List Choice))
  authenticatorUid : Option DbText
  associatedAuthenticators : Option (Dict Json)

/-- The code outside that the validation calls. -/
structure UserValidators where
  /-- The e-mail validator. -/
  validEmail : String → Bool
  /-- `str` of a number. -/
  numberText : Json.Number → String
  /-- The error of `validate` of the base classes, or of the e-mail policy. -/
  refuses : UserFields → Option String

/-- The errors of a stage. -/
def Stage.errors {α : Type} : Stage α → List String
  | .invalid errors => errors
  | _ => []

/-- The stage of a field that need not be there. -/
def Stage.optional {α β : Type} (validation : α → Stage β) : Option α → Stage (Option β)
  | none => .valid none
  | some a => (validation a).andThen fun b => .valid (some b)

/-- `str(item)` of an item that may name a choice: a text, or a number without fraction or exponent.
The text of any other item is not that of an id. -/
def choiceText : Json → Option String
  | .str text => some text
  | .num n => if n.literal = "-0".toList then some "0" else some (String.ofList n.literal)
  | _ => none

/-- `CharField.to_internal_value`, with the check for null characters. -/
def toAuthenticatorUid (numberText : Json.Number → String) : Json → Stage DbText
  | .str text => characters (Text.strip text)
  | .num n => characters (Text.strip (numberText n))
  | .null => .invalid ["This field may not be null."]
  | _ => .invalid ["Not a valid string."]
where
  characters (text : String) : Stage DbText :=
    match DbText.ofString? text with
    | none => .invalid ["Null characters are not allowed."]
    | some uid => .valid uid

/-- `_is_authenticator_uid_unchanged`. -/
def isAuthenticatorUidUnchanged (value : DbText) (currentUids : List DbText) : Bool :=
  let incoming := ((Text.split ',' value.text).map Text.strip).filter (· ≠ "")
  let current := currentUids.map DbText.text
  incoming.all (· ∈ current) && current.all (· ∈ incoming)

/-- `_is_only_removing_authenticators`: a proper subset. -/
def isOnlyRemovingAuthenticators (authenticators currentAuthenticators : List Choice) : Bool :=
  authenticators.all (· ∈ currentAuthenticators) &&
    currentAuthenticators.any (· ∉ authenticators)

namespace AssociationDb

variable (db : AssociationDb)

/-- `get_authenticator_ids`. -/
def getAuthenticatorIds (user : ℕ) : List ℕ := (db.rowsOf user).map AuthenticatorUser.provider

/-- `get_authenticator_uids`, each uid once. -/
def getAuthenticatorUids (user : ℕ) : List DbText := ((db.rowsOf user).map (·.uid)).dedup

/-! ## The fields -/

/-- The choice that an item names. -/
def toChoice (item : Json) : Option Choice :=
  if choiceText item = some "" then some .blank
  else
    (db.authenticators.find? fun a => choiceText item = some (toString a.id)).map fun a => .id a.id

/-- `MultipleChoiceField.to_internal_value`. The items of an object are its keys. -/
def toAuthenticators : Json → Stage (Option (List Choice))
  | .null => .valid none
  | .arr items => choices items
  | .obj members => choices ((Dict.ofList members).items.map fun member => .str member.1)
  | _ => .invalid ["Expected a list of items."]
where
  choices (items : List Json) : Stage (Option (List Choice)) :=
    match items.mapM db.toChoice with
    | some choices => .valid (some choices.dedup)
    | none => .invalid ["Not a valid choice."]

/-! ## The fields together -/

/-- `_handle_partial_update`: without a uid of its own, a partial update of the authenticators takes
the first uid of the user, and there need not be one. -/
def handlePartialUpdate (action : Action) (user : ℕ) (data : UserFields) : Stage UserFields :=
  if action = .patch ∧ data.authenticators.isSome ∧ data.authenticatorUid = none then
    match (db.getAuthenticatorUids user).head? with
    | some uid => .valid { data with authenticatorUid := some uid }
    | none => .raised
  else .valid data

/-- `_validate_uid_conflicts`. Looking up the empty choice raises. -/
def validateUidConflicts (uid : DbText) (user : ℕ) : List Choice → Option (List String)
  | [] => some []
  | .blank :: _ => none
  | .id n :: authenticators => do
    let errors ← validateUidConflicts uid user authenticators
    match db.authenticator? n with
    | none => return errors
    | some a =>
      match db.uidConflict? n uid user with
      | none => return errors
      | some r =>
        let name := a.name
        let message := db.conflictMessage a uid r
        let uid := uid.text
        return s!"UID '{uid}' is already in use for authenticator: {name}" ::
          s!"Cannot set authenticator '{name}': {message}" :: errors

/-- `_validate_new_authenticators`. -/
def validateNewAuthenticators (action : Action) (user : ℕ) (authenticators added : List Choice)
    (uid : Option DbText) : List String :=
  let uidChanged := uid.any fun uid =>
    !isAuthenticatorUidUnchanged uid (db.getAuthenticatorUids user)
  if action ≠ .create ∧ 1 < authenticators.length ∧ (!added.isEmpty || uidChanged) then
    ["Adding multiple new authenticators is not supported with the 'authenticators' field. " ++
      "Use 'associated_authenticators' field to manage multiple authenticators."]
  else []

/-- `_validate_authenticators_and_uid`. An empty uid is none. -/
def validateAuthenticatorsAndUid (action : Action) (user : ℕ) (authenticators : List Choice)
    (authenticatorUid : Option DbText) : Option (List String) := do
  let current := (db.getAuthenticatorIds user).map Choice.id
  if isOnlyRemovingAuthenticators authenticators current then return []
  let added := authenticators.filter (· ∉ current)
  let removed := current.filter (· ∉ authenticators)
  let uid := authenticatorUid.filter (·.text ≠ "")
  let required := if uid = none then
      ["Authenticator UID cannot be empty when setting authenticators."]
    else []
  let presence :=
    if action ≠ .create ∧ !added.isEmpty ∧ removed.isEmpty ∧ !current.isEmpty ∧ uid = none then
      ["When adding new authenticators, the 'authenticator_uid' field must be provided."]
    else []
  let conflicts ← match uid with
    | none => some []
    | some uid => db.validateUidConflicts uid user authenticators
  return required ++ presence ++ conflicts ++
    db.validateNewAuthenticators action user authenticators added uid

/-- `_validate_empty_authenticators`. -/
def validateEmptyAuthenticators (authenticators : Option (List Choice))
    (authenticatorUid : Option DbText) : List String :=
  if authenticators = some [] ∧ (authenticatorUid.filter (·.text ≠ "")).isSome then
    ["Authenticator UID should be empty when removing all authenticators."]
  else []

/-- `UserSerializer.validate`. The checks of the deprecated fields see the uid of the request, not
the one that a partial update is given. -/
def validate (validators : UserValidators) (action : Action) (user : ℕ) (data : UserFields) :
    Stage UserFields :=
  match validators.refuses data with
  | some error => .invalid [error]
  | none =>
    (db.handlePartialUpdate action user data).andThen fun completed =>
      if data.associatedAuthenticators.isSome then .valid completed
      else
        let authenticators := data.authenticators.join
        match
          match authenticators with
          | none | some [] => some []
          | some authenticators =>
            db.validateAuthenticatorsAndUid action user authenticators data.authenticatorUid
        with
        | none => .raised
        | some errors =>
          let errors := errors ++ validateEmptyAuthenticators authenticators data.authenticatorUid
          if errors.isEmpty then .valid completed else .invalid errors

/-- The validation of a request: of each field first, and of the fields together if none has an
error. An exception of a field's validation is not caught. -/
def runValidation (validators : UserValidators) (superuser : Bool) (action : Action) (user : ℕ)
    (otherErrors : List String) (payload : UserPayload) : Stage UserFields :=
  let authenticators := Stage.optional db.toAuthenticators payload.authenticators
  let authenticatorUid := Stage.optional (toAuthenticatorUid validators.numberText)
    payload.authenticatorUid
  let associatedAuthenticators := Stage.optional
    (fun value => db.validateField validators.validEmail superuser user ⟨value, false⟩)
    payload.associatedAuthenticators
  match authenticators, authenticatorUid, associatedAuthenticators with
  -- Only the validation of the new field may raise something that is no validation error.
  | _, _, .raised => .raised
  | .valid authenticators, .valid authenticatorUid, .valid associatedAuthenticators =>
    if otherErrors.isEmpty then
      db.validate validators action user
        ⟨payload.username, authenticators, authenticatorUid, associatedAuthenticators⟩
    else .invalid otherErrors
  | authenticators, authenticatorUid, associatedAuthenticators =>
    .invalid (otherErrors ++ authenticators.errors ++ authenticatorUid.errors ++
      associatedAuthenticators.errors)

/-! ## Valid requests -/

/-- How a field that need not be there is valid. -/
theorem optional_eq_valid {α β : Type} {validation : α → Stage β} {field : Option α}
    {result : Option β} (h : Stage.optional validation field = .valid result) :
    (field = none ∧ result = none) ∨
      ∃ a b, field = some a ∧ validation a = .valid b ∧ result = some b := by
  cases field with
  | none => exact Or.inl ⟨rfl, (Stage.valid.inj h).symm⟩
  | some a =>
      refine Or.inr ?_
      rw [Stage.optional] at h
      cases hvalidation : validation a with
      | raised => rw [hvalidation] at h; cases h
      | invalid errors => rw [hvalidation] at h; cases h
      | valid b =>
          rw [hvalidation] at h
          exact ⟨a, b, rfl, hvalidation, (Stage.valid.inj h).symm⟩

section Valid

variable {db : AssociationDb} {validators : UserValidators} {superuser : Bool} {action : Action}
  {user : ℕ} {otherErrors : List String} {payload : UserPayload} {data completed : UserFields}

/-- In a valid request every field is valid, and so are the fields together. -/
theorem valid_of_runValidation
    (h : db.runValidation validators superuser action user otherErrors payload = .valid completed) :
    ∃ data : UserFields, data.username = payload.username ∧
      Stage.optional db.toAuthenticators payload.authenticators = .valid data.authenticators ∧
      Stage.optional (toAuthenticatorUid validators.numberText) payload.authenticatorUid =
        .valid data.authenticatorUid ∧
      Stage.optional
          (fun value => db.validateField validators.validEmail superuser user ⟨value, false⟩)
          payload.associatedAuthenticators = .valid data.associatedAuthenticators ∧
      otherErrors = [] ∧ db.validate validators action user data = .valid completed := by
  unfold runValidation at h
  dsimp only at h
  split at h
  · cases h
  · -- All three fields are valid, and the other fields have no errors either.
    rename_i authenticators uid associated ha hu hs
    split at h
    · rename_i hempty
      exact ⟨_, rfl, ha, hu, hs, List.isEmpty_iff.mp hempty, h⟩
    · cases h
  · cases h

/-- Fields that are valid together: the base classes let them pass, a partial update finds a uid,
and without the new field the deprecated ones are in order. -/
theorem valid_of_validate (h : db.validate validators action user data = .valid completed) :
    validators.refuses data = none ∧
      db.handlePartialUpdate action user data = .valid completed ∧
      (data.associatedAuthenticators = none →
        (∀ authenticators, data.authenticators.join = some authenticators → authenticators ≠ [] →
          db.validateAuthenticatorsAndUid action user authenticators data.authenticatorUid =
            some []) ∧
        validateEmptyAuthenticators data.authenticators.join data.authenticatorUid = []) := by
  unfold validate at h
  split at h
  · cases h
  · rename_i hrefuses
    refine ⟨hrefuses, ?_⟩
    cases hfilled : db.handlePartialUpdate action user data with
    | raised => rw [hfilled] at h; cases h
    | invalid errors => rw [hfilled] at h; cases h
    | valid completed' =>
        rw [hfilled, Stage.andThen] at h
        split at h
        · -- With the new field the deprecated ones are not checked.
          rename_i hsome
          refine ⟨h, fun hnone => ?_⟩
          rw [hnone] at hsome
          cases hsome
        · dsimp only at h
          split at h
          · cases h
          · rename_i errors herrors
            split at h
            · rename_i hempty
              obtain ⟨rfl, hemptyErrors⟩ := List.append_eq_nil_iff.mp (List.isEmpty_iff.mp hempty)
              refine ⟨h, fun _ => ⟨fun authenticators heq hne => ?_, hemptyErrors⟩⟩
              rw [heq] at herrors
              cases authenticators with
              | nil => exact absurd rfl hne
              | cons choice choices => exact herrors
            · cases h

/-- A partial update may be given a uid, and is otherwise left. -/
theorem completed_eq (h : db.handlePartialUpdate action user data = .valid completed) :
    completed = { data with authenticatorUid := completed.authenticatorUid } ∧
      (data.authenticators = none → completed = data) := by
  unfold handlePartialUpdate at h
  split at h
  · -- Only a request with authenticators is given a uid.
    rename_i hfilled
    split at h
    · rw [← Stage.valid.inj h]
      refine ⟨rfl, fun hnone => ?_⟩
      rw [hnone] at hfilled
      cases hfilled.2.1
    · cases h
  · rw [← Stage.valid.inj h]
    exact ⟨rfl, fun _ => rfl⟩

end Valid

end AssociationDb

end AapGateway.Users
