import AapGateway.Users.AssociatedEntries

/-!
# Writing and reading the new field

A value of `associated_authenticators` that is accepted is read back by
`get_associated_authenticators` with one entry for each key, unless two keys denote the same id:
`"1"` and `"01"` are different texts, and both are read as 1.

## Main results

* `roundTrips_iff`: an accepted value is read back exactly if its keys denote different ids;
* `not_roundTrips_twoKeys`: a value with two keys for one authenticator is accepted.
-/

namespace AapGateway.Users

namespace AssociationDb

/-- What is read back of an entry: at a local authenticator the uid is the username, and an empty
e-mail is none. -/
def expectedEntry (db : AssociationDb) (username : DbText) (e : Entry) : ℕ × Details :=
  (e.provider,
    { uid := if db.isLocalAt e.provider then username else e.uid
      email := e.email.filter (· ≠ "") })

/-- Every item of the value names an entry, and what is read afterwards is one entry for each item
and nothing else. -/
def RoundTrips (db db' : AssociationDb) (user : ℕ) (username : DbText) (submitted : Dict Json) :
    Prop :=
  ∃ entries, List.Forall₂ (fun item e => readEntry item = some e) submitted.items entries ∧
    (db'.getAssociatedAuthenticators user).Perm (entries.map (db.expectedEntry username))

variable {db db' : AssociationDb}

/-- Setting values under different new keys appends them. -/
theorem foldl_upsert_eq_append {α β κ : Type} [DecidableEq κ] {key : β → κ} {f : α → β}
    {rows : List α} {values : List β}
    (h : (values.map key ++ rows.map fun r => key (f r)).Nodup) :
    rows.foldl (fun d r => Table.upsert key (f r) d) values = values ++ rows.map f := by
  induction rows generalizing values with
  | nil => simp
  | cons r rows ih =>
      have hnew : values.any (fun v => key v = key (f r)) = false := by
        rw [List.any_eq_false]
        intro v hv heq
        have hdisjoint := (List.nodup_append.mp h).2.2 (key v) (List.mem_map_of_mem hv)
          (key (f r)) List.mem_cons_self
        exact hdisjoint (of_decide_eq_true heq)
      have hupsert : Table.upsert key (f r) values = values ++ [f r] := by
        rw [Table.upsert, hnew]
        simp
      rw [List.foldl_cons, hupsert, ih]
      · simp
      · simpa using h

/-- The rows of the entries are read back exactly if the entries are of different authenticators. -/
theorem perm_iff_nodup {pk : ℕ} {username : DbText} {entries : List Entry}
    (hrows : db'.rowsOf pk = entries.map (db.entryRow ⟨pk, username⟩)) :
    (db'.getAssociatedAuthenticators pk).Perm (entries.map (db.expectedEntry username)) ↔
      (entries.map Entry.provider).Nodup := by
  have hkeys : (entries.map (db.expectedEntry username)).map Prod.fst =
      entries.map Entry.provider := by
    rw [List.map_map]
    rfl
  constructor
  · intro hperm
    have hnodup : ((db'.getAssociatedAuthenticators pk).map Prod.fst).Nodup :=
      Table.nodup_map_key_foldl_upsert (by simp)
    rw [← hkeys]
    exact (hperm.map Prod.fst).nodup_iff.mp hnodup
  · intro hnodup
    have hread : db'.getAssociatedAuthenticators pk =
        entries.map (db.expectedEntry username) := by
      rw [getAssociatedAuthenticators, hrows, foldl_upsert_eq_append]
      · rw [List.nil_append, List.map_map]
        rfl
      · rw [List.map_nil, List.nil_append, List.map_map]
        exact hnodup
    rw [hread]

/-- The keys of the items denote different ids exactly if the entries are of different
authenticators. -/
theorem nodup_keys_iff {user : ℕ} {items : List (String × Json)} {entries : List Entry}
    (h : List.Forall₂ (Reads db user) items entries) :
    (items.map fun item => pyInt item.1).Nodup ↔ (entries.map Entry.provider).Nodup := by
  have hkeys : items.map (fun item => pyInt item.1) =
      (entries.map Entry.provider).map fun provider => some (Int.ofNat provider) := by
    rw [List.map_map]
    induction h with
    | nil => rfl
    | cons hitem _ ih => rw [List.map_cons, List.map_cons, ih, hitem.key]; rfl
  rw [hkeys]
  refine List.nodup_map_iff fun a b heq => ?_
  exact Int.ofNat_inj.mp (Option.some.inj heq)

end AssociationDb

open AssociationDb

/-- For every value that is not empty and is accepted from a superuser, in a creation or an update
without the deprecated field of authenticators: it is read back exactly if its keys denote different
ids. -/
theorem roundTrips_iff (db : AssociationDb) (validators : UserValidators)
    (determine : AuthenticatorUser → DbText) (action : Action) (stored : StoredUser)
    (otherErrors : List String) (payload : UserPayload) (value : Json) (data : UserFields)
    (db' : AssociationDb) (hvalue : payload.associatedAuthenticators = some value)
    (hnonempty : value.truthy = true) (hauthenticators : payload.authenticators = none)
    (h : db.Accepts validators determine true action stored otherErrors payload data db') :
    ∃ submitted, value.asDict? = some submitted ∧
      (db.RoundTrips db' stored.pk (db.usernameAfter action stored data) submitted ↔
        (submitted.items.map fun item => pyInt item.1).Nodup) := by
  obtain ⟨hvalid, hperform⟩ := h
  have hsound := sound_of_valid hvalid
  obtain ⟨given, -, hgivenAuthenticators, -, hassociated, -, hvalidate⟩ :=
    valid_of_runValidation hvalid
  obtain ⟨-, hcompleted, -⟩ := valid_of_validate hvalidate
  rw [hauthenticators] at hgivenAuthenticators
  have hnoList : given.authenticators = none := (Stage.valid.inj hgivenAuthenticators).symm
  obtain rfl := (completed_eq hcompleted).2 hnoList
  rw [hvalue] at hassociated
  rcases optional_eq_valid hassociated with ⟨hnone, -⟩ | ⟨json, submitted, hjson, hfield, hsome⟩
  · cases hnone
  obtain rfl := Option.some.inj hjson
  refine ⟨submitted, ?_, ?_⟩
  · rcases valid_cases hfield with ⟨hfalsy, -⟩ | ⟨-, hdict, -⟩ | ⟨-, hdict, -⟩
    · rw [hnonempty] at hfalsy
      cases hfalsy
    · exact hdict
    · exact hdict
  · have hreads := forall₂_entriesOf (hsound submitted hsome)
    have husername : db.fieldUsername action stored data = db.usernameAfter action stored data := by
      rw [fieldUsername, if_neg]
      rw [hnoList]
      rintro ⟨-, hempty⟩
      cases hempty
    have hrows := rowsOf_perform hsound hsome hperform
    rw [husername] at hrows
    rw [nodup_keys_iff hreads, ← perm_iff_nodup hrows]
    constructor
    · rintro ⟨entries, hentries, hperm⟩
      -- an item names one entry
      have hsame : entries = entriesOf submitted := by
        refine List.right_unique_forall₂' ?_ hentries (hreads.imp fun _ _ hr => hr.readEntry_eq)
        intro item e e' he he'
        exact Option.some.inj (he.symm.trans he')
      rw [← hsame]
      exact hperm
    · intro hperm
      exact ⟨entriesOf submitted, hreads.imp fun _ _ hr => hr.readEntry_eq, hperm⟩

/-! ## Two keys for one authenticator -/

/-- Validators that refuse nothing. -/
def openValidators : UserValidators where
  validEmail := fun _ => true
  numberText := fun _ => ""
  refuses := fun _ => none

/-- The user of the LDAP authenticator. -/
def firstUser : StoredUser where
  pk := 1
  lastLoginFrom := none
  prefetch := true

/-- An item with a uid and no e-mail. -/
def uidItem (key uid : String) : String × Json := (key, .obj [("uid", .str uid)])

/-- A request with the new field only. -/
def fieldPayload (items : List (String × Json)) : UserPayload where
  username := none
  authenticators := none
  authenticatorUid := none
  associatedAuthenticators := some (.obj items)

/-- Its fields when they are valid. -/
def fieldData (items : List (String × Json)) : UserFields where
  username := none
  authenticators := none
  authenticatorUid := none
  associatedAuthenticators := some (Dict.ofList items)

/-- Items in which nothing is found wrong are accepted from a superuser. -/
theorem exists_accepts_of_items {items : List (String × Json)} {entries : List Entry}
    (htruthy : (Json.obj items).truthy = true) (hitems : (Dict.ofList items).items = items)
    (hmatch : matchesRecord (ldapUser.getAssociatedAuthenticators 1) (.obj items) = false)
    (hconflicts : ldapUser.validateConflicts 1 items = some [])
    (hkeys : ldapUser.validateAuthenticatorKeysExist (items.map Prod.fst) = [])
    (hsingle : ∀ item ∈ items,
      validateSingleAuthenticatorEntry openValidators.validEmail item.1 item.2 = [])
    (hentries : items.filterMap readEntry = entries)
    (hnodup :
      ((entries.map (ldapUser.entryRow ⟨1, .lit "user"⟩)).map AuthenticatorUser.key).Nodup) :
    ∃ db', ldapUser.Accepts openValidators AuthenticatorUser.uid true .patch firstUser []
      (fieldPayload items) (fieldData items) db' := by
  have hfield : ldapUser.validateField openValidators.validEmail true 1 ⟨.obj items, false⟩ =
      .valid (Dict.ofList items) := by
    show ldapUser.validateAssociatedAuthenticators _ true 1 (.obj items) = _
    unfold validateAssociatedAuthenticators
    simp only [htruthy, Json.asDict?, hitems, hmatch, hconflicts, hkeys,
      List.flatMap_eq_nil_iff.mpr hsingle]
    rfl
  have hvalid : ldapUser.runValidation openValidators true .patch 1 [] (fieldPayload items) =
      .valid (fieldData items) := by
    unfold runValidation fieldPayload Stage.optional
    simp only [hfield]
    rfl
  have hfits : ldapUser.PlanFits firstUser.pk
      (ldapUser.updatePlan AuthenticatorUser.uid firstUser (fieldData items)) := by
    have hplan : ldapUser.updatePlan AuthenticatorUser.uid firstUser (fieldData items) =
        ldapUser.associatedPlan ⟨1, .lit "user"⟩ (entriesOf (Dict.ofList items)) := rfl
    rw [hplan, entriesOf, hitems, hentries]
    have hforeign : ∀ k, ¬ldapUser.Foreign 1 k := not_foreign_of_forall (by decide)
    exact (fits_associatedPlan_iff _ _ _ _).mpr
      ⟨fun _ _ => hforeign _, hnodup, fun _ _ => hforeign _⟩
  have hsound : ldapUser.Sound firstUser.pk (fieldData items) := sound_of_valid hvalid
  obtain ⟨db', hok⟩ := (isOk_update_iff hsound).mpr hfits
  exact ⟨db', hvalid, hok⟩

/-- A value with one key is accepted and read back. -/
theorem roundTrips_oneKey :
    ∃ db' submitted, ldapUser.Accepts openValidators AuthenticatorUser.uid true .patch firstUser []
        (fieldPayload [uidItem "2" "a"]) (fieldData [uidItem "2" "a"]) db' ∧
      (Json.obj [uidItem "2" "a"]).asDict? = some submitted ∧
      ldapUser.RoundTrips db' 1 (.lit "user") submitted := by
  have htwo : pyInt "2" = some 2 := @pyInt_key 2 (by decide)
  have hconflicts : ldapUser.validateConflicts 1 [uidItem "2" "a"] = some [] := by
    unfold uidItem
    simp only [validateConflicts, htwo]
    rfl
  have hkeys : ldapUser.validateAuthenticatorKeysExist ([uidItem "2" "a"].map Prod.fst) = [] := by
    simp [validateAuthenticatorKeysExist, htwo, authenticator?, ldapUser, uidItem]
  have hentries : [uidItem "2" "a"].filterMap readEntry = [⟨2, .lit "a", none⟩] := by
    unfold uidItem
    simp only [readEntry, List.filterMap, htwo]
    rfl
  obtain ⟨db', haccepts⟩ := exists_accepts_of_items (by decide) (by decide) (by decide) hconflicts
    hkeys (by decide) hentries (by decide)
  obtain ⟨submitted, hdict, hiff⟩ := roundTrips_iff ldapUser openValidators AuthenticatorUser.uid
    .patch firstUser [] (fieldPayload [uidItem "2" "a"]) _ (fieldData [uidItem "2" "a"]) db' rfl rfl
    rfl haccepts
  refine ⟨db', submitted, haccepts, hdict, hiff.mpr ?_⟩
  rw [← Option.some.inj hdict]
  exact List.nodup_singleton _

/-- The keys `"2"` and `"02"` denote one authenticator. A value with both is accepted, and one entry
is read back. -/
theorem not_roundTrips_twoKeys :
    ∃ db', ldapUser.Accepts openValidators AuthenticatorUser.uid true .patch firstUser []
        (fieldPayload [uidItem "2" "a", uidItem "02" "b"])
        (fieldData [uidItem "2" "a", uidItem "02" "b"]) db' ∧
      ¬ldapUser.RoundTrips db' 1 (.lit "user")
        (Dict.ofList [uidItem "2" "a", uidItem "02" "b"]) := by
  have htwo : pyInt "2" = some 2 := @pyInt_key 2 (by decide)
  have hzero : pyInt "02" = some 2 := by
    rw [pyInt_of_isNat (String.isNat_of_isDigit (by decide) (by simp)) (by decide)]
    rfl
  have hitems : (Dict.ofList [uidItem "2" "a", uidItem "02" "b"]).items =
      [uidItem "2" "a", uidItem "02" "b"] := by decide
  have hconflicts : ldapUser.validateConflicts 1 [uidItem "2" "a", uidItem "02" "b"] =
      some [] := by
    unfold uidItem
    simp only [validateConflicts, htwo, hzero]
    rfl
  have hkeys : ldapUser.validateAuthenticatorKeysExist
      ([uidItem "2" "a", uidItem "02" "b"].map Prod.fst) = [] := by
    simp [validateAuthenticatorKeysExist, htwo, hzero, authenticator?, ldapUser, uidItem]
  have hentries : [uidItem "2" "a", uidItem "02" "b"].filterMap readEntry =
      [⟨2, .lit "a", none⟩, ⟨2, .lit "b", none⟩] := by
    unfold uidItem
    simp only [readEntry, List.filterMap, htwo, hzero]
    rfl
  obtain ⟨db', haccepts⟩ := exists_accepts_of_items (by decide) hitems (by decide) hconflicts hkeys
    (by decide) hentries (by decide)
  refine ⟨db', haccepts, ?_⟩
  -- the second row is the one that is read
  have hrows : db'.rowsOf 1 = [⟨2, 1, .lit "a", none⟩, ⟨2, 1, .lit "b", none⟩] := by
    have hafter := rowsOf_perform (sound_of_valid haccepts.1) rfl haccepts.2
    rw [entriesOf, hitems, hentries] at hafter
    exact hafter
  rintro ⟨entries, hnames, hperm⟩
  have hlength := hperm.length_eq
  rw [getAssociatedAuthenticators, hrows, List.length_map, ← hnames.length_eq, hitems] at hlength
  cases hlength

end AapGateway.Users
