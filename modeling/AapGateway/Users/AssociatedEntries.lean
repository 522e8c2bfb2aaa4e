import AapGateway.Users.UserPlan

/-!
# The entries of the new field

A value of `associated_authenticators` that the validation lets pass names an authenticator and a
uid in each of its items, and perhaps an e-mail. With these entries the writes of the field, and
with them those of a whole request, are known.

## Main definitions

* `Entry` and `entriesOf`: what a value names;
* `AssociationDb.requestPlan` and `AssociationDb.updatePlan`: the writes of a request.

## Main results

* `reads_of_valid`: the items of a valid value name entries;
* `realizes_update` and `realizes_create`: the application carries out the plan of the request.
-/

namespace AapGateway.Users

open UniqueWrites

/-- What an item of the field names. -/
structure Entry where
  provider : ℕ
  uid : DbText
  email : Option String
  deriving DecidableEq

/-- The entry of an item. -/
def readEntry (item : String × Json) : Option Entry :=
  match pyInt item.1, item.2.asDict? with
  | some (.ofNat provider), some details =>
    match details.get? "uid" with
    | some (.str uid) =>
      (DbText.ofString? uid).map fun uid =>
        ⟨provider, uid, match details.value? "email" with
          | some (.str email) => some email
          | _ => none⟩
    | _ => none
  | _, _ => none

/-- The entries of a value. -/
def entriesOf (value : Dict Json) : List Entry := value.items.filterMap readEntry

namespace AssociationDb

/-- An item names an entry at an authenticator that exists. An empty uid, which only the value on
record can have, is no other user's. -/
structure Reads (db : AssociationDb) (user : ℕ) (item : String × Json) (e : Entry) : Prop where
  key : pyInt item.1 = some (e.provider : ℤ)
  provider_mem : e.provider ∈ db.authenticators.map Authenticator.id
  details : ∃ details : Dict Json, item.2.asDict? = some details ∧
    details.get? "uid" = some (.str e.uid.text) ∧ details.value? "email" = e.email.map .str
  empty : e.uid.text = "" → ¬db.Foreign user (e.provider, e.uid)

/-- The row that is created for an entry. -/
def entryRow (db : AssociationDb) (user : UserRef) (e : Entry) : AuthenticatorUser where
  provider := e.provider
  user := user.pk
  uid := if db.isLocalAt e.provider then user.username else e.uid
  email := e.email

/-- The writes of the new field: no uid may be another user's, and then all rows are replaced. -/
def associatedPlan (db : AssociationDb) (user : UserRef) (entries : List Entry) : List RowWrite :=
  (entries.map fun e => .check (e.provider, e.uid)) ++
    .remove (fun _ => true) :: entries.map fun e => .insert (db.entryRow user e)

variable {db db' : AssociationDb} {item : String × Json} {e : Entry} {items : List (String × Json)}
  {entries : List Entry}

/-- The entry of an item that names one. -/
theorem Reads.readEntry_eq {user : ℕ} (h : Reads db user item e) : readEntry item = some e := by
  obtain ⟨details, hdict, huid, hemail⟩ := h.details
  have hkey : pyInt item.1 = some (.ofNat e.provider) := h.key
  unfold readEntry
  rw [hkey, hdict]
  simp only [huid, hemail, DbText.ofString?_text]
  obtain ⟨provider, uid, email⟩ := e
  cases email <;> rfl

/-- The entries of a value whose items all name one. -/
theorem forall₂_entriesOf {user : ℕ} {value : Dict Json}
    (h : ∀ item ∈ value.items, ∃ e, Reads db user item e) :
    List.Forall₂ (Reads db user) value.items (entriesOf value) := by
  unfold entriesOf
  revert h
  induction value.items with
  | nil => exact fun _ => .nil
  | cons item items ih =>
      intro h
      rw [List.forall_mem_cons] at h
      obtain ⟨⟨e, he⟩, hitems⟩ := h
      rw [List.filterMap_cons_some he.readEntry_eq]
      exact .cons he (ih hitems)

/-! ## What the validation lets pass -/

/-- The key of an item is the id of an authenticator, if nothing is found wrong with the keys. -/
theorem exists_provider_of_keys
    (h : db.validateAuthenticatorKeysExist (items.map Prod.fst) = []) (hitem : item ∈ items) :
    ∃ provider : ℕ, pyInt item.1 = some (provider : ℤ) ∧
      provider ∈ db.authenticators.map Authenticator.id := by
  unfold validateAuthenticatorKeysExist at h
  split at h
  · cases h
  · rename_i ids hids
    dsimp only at h
    split at h
    · rename_i hmissing
      obtain ⟨id, hid, hkey⟩ := (List.mapM_eq_some_iff.mp hids).exists_of_mem_left
        (List.mem_map_of_mem (f := Prod.fst) hitem)
      have hfound : (db.authenticator? id).isNone = false := by
        by_contra hnone
        rw [Bool.not_eq_false] at hnone
        have hmem : id ∈ (ids.filter fun id => (db.authenticator? id).isNone).dedup :=
          List.mem_dedup.mpr (List.mem_filter.mpr ⟨hid, hnone⟩)
        have hsorted := (List.perm_insertionSort (· ≤ ·) _).mem_iff.mpr hmem
        rw [List.isEmpty_iff.mp hmissing] at hsorted
        exact List.not_mem_nil hsorted
      obtain ⟨a, ha⟩ := Option.isSome_iff_exists.mp (Option.isNone_eq_false_iff.mp hfound)
      have hid' := List.find?_some ha
      refine ⟨a.id, ?_, List.mem_map_of_mem (List.mem_of_find?_eq_some ha)⟩
      rw [hkey, of_decide_eq_true hid']
    · cases h

/-- An item in which nothing is found wrong has a uid that is not empty, and an e-mail or none. -/
theorem exists_details_of_entry {validEmail : String → Bool}
    (h : validateSingleAuthenticatorEntry validEmail item.1 item.2 = []) :
    ∃ (details : Dict Json) (uid : String) (email : Option String),
      item.2.asDict? = some details ∧ details.get? "uid" = some (.str uid) ∧ uid ≠ "" ∧
        details.value? "email" = email.map .str := by
  unfold validateSingleAuthenticatorEntry at h
  split at h
  · cases h
  · rename_i details hdict
    dsimp only at h
    obtain ⟨hunknown, hemail⟩ := List.append_eq_nil_iff.mp h
    obtain ⟨-, huid⟩ := List.append_eq_nil_iff.mp hunknown
    unfold validateEmailValue at hemail
    split at huid
    · rename_i uid hget
      split at huid
      · cases huid
      · rename_i hne
        -- the e-mail is absent, null, or a text
        split at hemail
        · rename_i hnone
          exact ⟨details, uid, none, hdict, hget, hne, hnone⟩
        · rename_i email hsome
          exact ⟨details, uid, some email, hdict, hget, hne, hsome⟩
        · cases hemail
    · cases huid

/-- The check for conflicts cannot read an item: it has no details, or a uid under a key that is no
number, or a uid with a null character at an authenticator that exists. -/
def Unreadable (db : AssociationDb) (item : String × Json) : Prop :=
  match item.2.asDict? with
  | none => True
  | some details => ∃ uid, details.get? "uid" = some uid ∧ uid.truthy = true ∧
      (pyInt item.1 = none ∨ ∃ id text, pyInt item.1 = some id ∧
        (db.authenticator? id).isSome = true ∧ uid = .str text ∧ '\x00' ∈ text.toList)

/-- The check for conflicts raises exactly at an item that it cannot read. -/
theorem validateConflicts_eq_none_iff {user : ℕ} {items : List (String × Json)} :
    db.validateConflicts user items = none ↔ ∃ item ∈ items, db.Unreadable item := by
  induction items with
  | nil => simp [validateConflicts]
  | cons item items ih =>
      obtain ⟨key, value⟩ := item
      rw [List.exists_mem_cons_iff, ← ih, validateConflicts, Unreadable]
      dsimp only
      cases value.asDict? with
      | none => simp
      | some details =>
          simp only [Option.bind_eq_bind, Option.bind_some]
          cases details.get? "uid" with
          | none => simp
          | some uid =>
              cases htruthy : uid.truthy with
              | false => simp [htruthy]
              | true =>
                  cases pyInt key with
                  | none => simp [htruthy]
                  | some id =>
                      -- what is looked up is the text of a uid, at an authenticator
                      simp only [htruthy, if_true, Option.bind_some, Option.some.injEq,
                        exists_eq_left', true_and, reduceCtorEq, false_or]
                      cases db.validateConflicts user items with
                      | none => simp
                      | some errors =>
                          rw [Option.bind_some, or_iff_left (Option.some_ne_none errors)]
                          cases ha : db.authenticator? id with
                          | none => simp [ha]
                          | some a =>
                              cases uid with
                              | str text =>
                                  have hnull : (∃ id' text', id = id' ∧
                                      (db.authenticator? id').isSome = true ∧
                                      Json.str text = .str text' ∧ '\x00' ∈ text'.toList) ↔
                                      DbText.ofString? text = none := by
                                    simp [ha, DbText.ofString?_eq_none]
                                  rw [hnull]
                                  dsimp only
                                  cases DbText.ofString? text with
                                  | none => exact iff_of_true rfl rfl
                                  | some parameter =>
                                      refine iff_of_false ?_ (Option.some_ne_none _)
                                      rw [Option.bind_some]
                                      split <;> exact Option.some_ne_none _
                              | _ => simp [ha]

/-- An item of a value in which nothing is found wrong names an entry. -/
theorem reads_of_noErrors {validEmail : String → Bool} {user : ℕ}
    (hconflicts : db.validateConflicts user items = some [])
    (hkeys : db.validateAuthenticatorKeysExist (items.map Prod.fst) = [])
    (hentry : validateSingleAuthenticatorEntry validEmail item.1 item.2 = [])
    (hitem : item ∈ items) : ∃ e, Reads db user item e := by
  obtain ⟨provider, hkey, hprovider⟩ := exists_provider_of_keys hkeys hitem
  obtain ⟨details, text, email, hdict, huid, hne, hemail⟩ := exists_details_of_entry hentry
  -- the check for conflicts has looked the uid up
  have hreadable : ¬db.Unreadable item := fun hunreadable => by
    have hnone := (@validateConflicts_eq_none_iff db user items).mpr ⟨item, hitem, hunreadable⟩
    cases hconflicts.symm.trans hnone
  cases hparameter : DbText.ofString? text with
  | none =>
      refine absurd ?_ hreadable
      obtain ⟨a, ha, -⟩ := authenticator?_of_mem hprovider
      have htruthy : (Json.str text).truthy = true := by simpa [Json.truthy] using hne
      unfold Unreadable
      rw [hdict]
      exact ⟨.str text, huid, htruthy, Or.inr ⟨provider, text, hkey, by rw [ha]; rfl, rfl,
        DbText.ofString?_eq_none.mp hparameter⟩⟩
  | some uid =>
      obtain rfl := DbText.ofString?_eq_some.mp hparameter
      exact ⟨⟨provider, uid, email⟩, hkey, hprovider, ⟨details, hdict, huid, hemail⟩,
        fun hempty => absurd hempty hne⟩

/-- An item that matches an entry on record names it. -/
theorem reads_of_matches {user : ℕ} {entry : ℕ × Details}
    (hentry : entry ∈ db.getAssociatedAuthenticators user) (hmatch : MatchesEntry item entry) :
    Reads db user item ⟨entry.1, entry.2.uid, entry.2.email⟩ := by
  obtain ⟨r, hr, hprovider, hdetails⟩ := exists_row_of_entry hentry
  obtain ⟨details, hdict, huid, hemail⟩ := details_of_matches hmatch.2
  obtain ⟨hrow, huser⟩ := mem_rowsOf.mp hr
  refine ⟨?_, ?_, ⟨details, hdict, huid, ?_⟩, fun _ => ?_⟩
  · rw [hmatch.1]
    exact @pyInt_of_onRecord db ⟨user, DbText.empty⟩ entry ⟨r, hrow, huser, hprovider, hdetails⟩
  · exact hprovider ▸ db.provider_mem r hrow
  · rw [Dict.value?, hemail]
    cases entry.2.email <;> rfl
  · -- the uid is the user's own
    rintro ⟨o, ho, houser, hkey⟩
    have huid' : r.uid = entry.2.uid := congrArg Details.uid hdetails
    have hsame := eq_of_uid_eq ho hrow ((congrArg Prod.fst hkey).trans hprovider.symm)
      ((congrArg Prod.snd hkey).trans huid'.symm)
    exact houser (hsame ▸ huser)

/-- A value that is false in Python has no items. -/
theorem items_eq_nil_of_not_truthy {value : Json} {submitted : Dict Json}
    (hdict : value.asDict? = some submitted) (h : value.truthy = false) : submitted.items = [] := by
  cases value with
  | obj members =>
      obtain rfl := Option.some.inj hdict
      obtain rfl : members = [] := by simpa [Json.truthy] using h
      rfl
  | _ => cases hdict

/-- How a value of the field is valid: it is empty, or the one on record, or a superuser's in which
nothing is found wrong. -/
theorem valid_cases {validEmail : String → Bool} {superuser : Bool} {user : ℕ} {value : Json}
    {submitted : Dict Json}
    (h : db.validateField validEmail superuser user ⟨value, false⟩ = .valid submitted) :
    (value.truthy = false ∧ submitted = Dict.empty) ∨
      (value.truthy = true ∧ value.asDict? = some submitted ∧
        matchesRecord (db.getAssociatedAuthenticators user) value = true) ∨
      (value.truthy = true ∧ value.asDict? = some submitted ∧ superuser = true ∧
        db.validateConflicts user submitted.items = some [] ∧
        db.validateAuthenticatorKeysExist (submitted.items.map Prod.fst) = [] ∧
        ∀ item ∈ submitted.items,
          validateSingleAuthenticatorEntry validEmail item.1 item.2 = []) := by
  have hnull : value ≠ .null := by
    rintro rfl
    cases h
  -- The field is not null, so that its validation is that of the associated authenticators.
  rw [validateField_eq fun heq => absurd heq hnull] at h
  unfold validateAssociatedAuthenticators at h
  dsimp only at h
  -- The branches stand in the order of the code; each early return is one alternative.
  split at h
  · rename_i htruthy
    exact Or.inl ⟨by simpa using htruthy, (Stage.valid.inj h).symm⟩
  · rename_i htruthy
    have htruthy' : value.truthy = true := by simpa using htruthy
    split at h
    · rename_i dict hdict
      split at h
      · rename_i hmatch
        obtain rfl := Stage.valid.inj h
        exact Or.inr (Or.inl ⟨htruthy', hdict, hmatch⟩)
      · split at h
        · cases h
        · rename_i hsuperuser
          split at h
          · cases h
          · rename_i conflicts hconflicts
            split at h
            · rename_i hempty
              -- The three lists of errors are joined, and none of them may have any.
              obtain rfl := Stage.valid.inj h
              obtain ⟨hfirst, rfl⟩ := List.append_eq_nil_iff.mp (List.isEmpty_iff.mp hempty)
              obtain ⟨hkeys, hentries⟩ := List.append_eq_nil_iff.mp hfirst
              exact Or.inr (Or.inr ⟨htruthy', hdict, by simpa using hsuperuser, hconflicts, hkeys,
                List.flatMap_eq_nil_iff.mp hentries⟩)
            · cases h
    · split at h <;> cases h

/-- The items of a valid value name entries. -/
theorem reads_of_valid {validEmail : String → Bool} {superuser : Bool} {user : ℕ} {value : Json}
    {submitted : Dict Json}
    (h : db.validateField validEmail superuser user ⟨value, false⟩ = .valid submitted) :
    ∀ item ∈ submitted.items, ∃ e, Reads db user item e := by
  intro item hitem
  rcases valid_cases h with ⟨-, rfl⟩ | ⟨-, hdict, hmatch⟩ | ⟨-, -, -, hconflicts, hkeys, hentries⟩
  · exact absurd hitem List.not_mem_nil
  · obtain ⟨entry, hentry, hitemMatch⟩ := (matches_of_matchesRecord hdict hmatch).1 item hitem
    exact ⟨_, reads_of_matches hentry hitemMatch⟩
  · exact reads_of_noErrors hconflicts hkeys (hentries item hitem) hitem

/-! ## Applying the new field -/

section Apply

variable {user : UserRef}

/-- What is read of an item is the same after writes to the user's rows. -/
theorem Reads.congr {user : ℕ} (h : Reads db user item e) (hsame : SameElse db db' user) :
    Reads db' user item e where
  key := h.key
  provider_mem := hsame.authenticators ▸ h.provider_mem
  details := h.details
  empty hempty := hsame.foreign ▸ h.empty hempty

/-- The conflicts of a value that names entries: there are none exactly if no uid is another
user's. -/
theorem exists_conflicts {user : ℕ} (h : List.Forall₂ (Reads db user) items entries) :
    ∃ conflicts, db.validateConflicts user items = some conflicts ∧
      (conflicts = [] ↔ ∀ e ∈ entries, ¬db.Foreign user (e.provider, e.uid)) := by
  induction h with
  | nil => exact ⟨[], rfl, by simp⟩
  | @cons item e items entries hitem _ ih =>
      obtain ⟨key, value⟩ := item
      obtain ⟨details, hdict, huid, -⟩ := hitem.details
      obtain ⟨conflicts, hconflicts, hiff⟩ := ih
      have hkey : pyInt key = some (e.provider : ℤ) := hitem.key
      rw [List.forall_mem_cons, validateConflicts]
      simp only [hdict, huid, hkey, hconflicts, Option.bind_eq_bind, Option.bind_some]
      by_cases hempty : e.uid.text = ""
      · -- an empty uid is passed over
        refine ⟨conflicts, by simp [Json.truthy, hempty], ?_⟩
        rw [hiff]
        exact ⟨fun hall => ⟨hitem.empty hempty, hall⟩, fun hall => hall.2⟩
      -- A uid is looked for in the rows of its own authenticator.
      · have htruthy : (Json.str e.uid.text).truthy = true := by simpa [Json.truthy] using hempty
        rw [if_pos htruthy]
        obtain ⟨a, ha, hid⟩ := authenticator?_of_mem hitem.provider_mem
        simp only [ha, hid, DbText.ofString?_text, Option.bind_some]
        cases hconflict : db.uidConflict? e.provider e.uid user with
        | none =>
            have hnot : ¬db.Foreign user (e.provider, e.uid) := by
              rw [← isSome_uidConflict?_iff, hconflict]
              exact Bool.false_ne_true
            exact ⟨conflicts, rfl, by rw [hiff]; exact (and_iff_right hnot).symm⟩
        | some r =>
            have hforeign : db.Foreign user (e.provider, e.uid) := by
              rw [← isSome_uidConflict?_iff, hconflict]
              rfl
            refine ⟨_, rfl, iff_of_false (List.cons_ne_nil _ _) fun hall => hall.1 hforeign⟩

/-- A row whose uid is no other user's is inserted without more ado. -/
theorem addFromAssociatedField_eq (hprovider : e.provider ∈ db.authenticators.map Authenticator.id)
    (hnot : ¬db.Foreign user.pk (e.provider, e.uid)) :
    db.addFromAssociatedField e.provider e.uid user e.email =
      db.insertRow (db.entryRow user e) := by
  obtain ⟨a, ha, hid⟩ := authenticator?_of_mem hprovider
  have hcreate : db.createUserRow e.provider (some e.uid) user e.email =
      db.insertRow (db.entryRow user e) := by
    unfold createUserRow
    rw [ha]
    dsimp only
    rw [Option.any_some, hid, if_neg (mt isSome_uidConflict?_iff.mp hnot)]
    unfold writtenUid entryRow
    cases db.isLocalAt e.provider <;> rfl
  unfold addFromAssociatedField
  rw [hcreate]
  rcases db.insertRow_cases (db.entryRow user e) with
    ⟨db', -, hinsert⟩ | ⟨-, failure, hne, hinsert⟩
  · rw [hinsert]
  · rw [hinsert]
    cases failure with
    | validation => exact absurd rfl hne
    | _ => rfl

/-- The row of an entry depends on the authenticators only. -/
theorem entryRow_congr {pk : ℕ} (h : SameElse db db' pk) (user : UserRef) (e : Entry) :
    db'.entryRow user e = db.entryRow user e := by
  unfold entryRow
  rw [h.isLocalAt]

/-- Adding entries whose uids are no other user's carries out the insertions. -/
theorem realizes_addItems (db : AssociationDb)
    (h : List.Forall₂ (Reads db user.pk) items entries)
    (hnot : ∀ e ∈ entries, ¬db.Foreign user.pk (e.provider, e.uid)) :
    Realizes db user.pk (entries.map fun e => .insert (db.entryRow user e))
      (addItems user db items) := by
  induction items generalizing db entries with
  | nil =>
      cases h
      exact realizes_nil db user.pk
  | cons item items ih =>
      cases h with
      | @cons _ e _ entries hitem hitems =>
          rw [List.forall_mem_cons] at hnot
          obtain ⟨key, value⟩ := item
          obtain ⟨details, hdict, huid, hemail⟩ := hitem.details
          have hkey : pyInt key = some (.ofNat e.provider) := hitem.key
          have huid' : details.value? "uid" = some (.str e.uid.text) := by rw [Dict.value?, huid]
          have hadd : addItems user db ((key, value) :: items) =
              db.addFromAssociatedField e.provider e.uid user e.email >>= fun db' =>
                addItems user db' items := by
            rw [addItems]
            simp only [hdict, huid', hkey, hemail, DbText.ofString?_text]
            cases e.email <;> rfl
          rw [hadd, addFromAssociatedField_eq hitem.provider_mem hnot.1]
          have hinsert := @realizes_insertRow db user.pk (db.entryRow user e) rfl hitem.provider_mem
          refine hinsert.bind fun db' _ _ hsame => ?_
          -- The rows that are written do not depend on the writes before: no authenticator changes.
          have hrows : (fun e => (.insert (db.entryRow user e) : RowWrite)) =
              fun e => .insert (db'.entryRow user e) := by
            funext e
            rw [entryRow_congr hsame]
          show Realizes db' user.pk (entries.map fun e => .insert (db.entryRow user e)) _
          rw [hrows]
          exact ih db' (hitems.imp fun _ _ hreads => hreads.congr hsame) fun e he =>
            hsame.foreign ▸ hnot.2 e he

/-- Checks do not write. -/
theorem fits_checks_iff {key : AuthenticatorUser → ℕ × DbText} {foreign : ℕ × DbText → Prop}
    {own : List AuthenticatorUser} (ks : List (ℕ × DbText)) :
    Fits key foreign own (ks.map Write.check) ↔ ∀ k ∈ ks, ¬foreign k := by
  induction ks with
  | nil => simp
  | cons k ks ih =>
      rw [List.map_cons, fits_cons, List.forall_mem_cons]
      exact and_congr_right fun _ => ih

/-- Checks do not collide. -/
theorem not_collides_checks {key : AuthenticatorUser → ℕ × DbText} {foreign : ℕ × DbText → Prop}
    {own : List AuthenticatorUser} (ks : List (ℕ × DbText)) :
    ¬Collides key foreign own (ks.map Write.check) := by
  induction ks with
  | nil => exact id
  | cons k ks ih =>
      rintro (hw | ⟨-, hplan⟩)
      · exact hw
      · exact ih hplan

/-- Removing the user's associations before the entries are added carries out its write. -/
theorem realizes_cleared (db : AssociationDb) (user : UserRef) (items : List (String × Json)) :
    Realizes db user.pk [.remove fun _ => true] (.ok (db.cleared user items)) := by
  refine Or.inl ⟨⟨trivial, trivial⟩, _, rfl, ?_, authenticators_cleared, ?_, fun o ho => ?_⟩
  · -- no row of the user is left
    have hnone : (db.cleared user items).rowsOf user.pk = [] := by
      refine List.eq_nil_iff_forall_not_mem.mpr fun r hr => ?_
      obtain ⟨hrow, huser⟩ := mem_rowsOf.mp hr
      exact (mem_rows_cleared.mp hrow).2 huser
    rw [hnone]
    simp [Write.after]
  · unfold cleared
    have hemail : ∀ (current : AssociationDb) email,
        (current.setEmail user.pk email).usernames = current.usernames := by
      intro current email
      cases email <;> rfl
    rw [hemail, usernames_removeAuthenticators]
  · exact mem_rows_cleared.trans (and_iff_left ho)

/-- Applying a value whose items name entries carries out its writes. -/
theorem realizes_processAssociated (db : AssociationDb) (user : UserRef) {value : Dict Json}
    (h : ∀ item ∈ value.items, ∃ e, Reads db user.pk item e) :
    Realizes db user.pk (db.associatedPlan user (entriesOf value))
      (db.processAssociated user value) := by
  have hreads := forall₂_entriesOf h
  obtain ⟨conflicts, hconflicts, hiff⟩ := exists_conflicts hreads
  have hchecks : (entriesOf value).map (fun e => (.check (e.provider, e.uid) : RowWrite)) =
      ((entriesOf value).map fun e => (e.provider, e.uid)).map Write.check := by
    rw [List.map_map]
    rfl
  unfold processAssociated associatedPlan
  rw [hconflicts, hchecks]
  cases conflicts with
  | cons conflict conflicts =>
      -- a check does not fit, and none collides
      have hnot : ¬∀ e ∈ entriesOf value, ¬db.Foreign user.pk (e.provider, e.uid) :=
        fun hall => nomatch hiff.mpr hall
      have hfits : ¬db.PlanFits user.pk
          (((entriesOf value).map fun e => (e.provider, e.uid)).map Write.check) := by
        intro hall
        refine hnot fun e he => ?_
        exact (fits_checks_iff _).mp hall _ (List.mem_map_of_mem he)
      refine Or.inr (Or.inr ⟨fun hall => hfits (fits_append.mp hall).1, fun hall => ?_,
        .validation, rfl, by decide⟩)
      rcases collides_append.mp hall with hc | ⟨hf, -⟩
      · exact not_collides_checks _ hc
      · exact hfits hf
  | nil =>
      have hnot := hiff.mp rfl
      have hfirst : Realizes db user.pk
          (((entriesOf value).map fun e => (e.provider, e.uid)).map Write.check) (.ok db) := by
        have hafter : ∀ (own : List AuthenticatorUser) (ks : List (ℕ × DbText)),
            after own (ks.map Write.check) = own := by
          intro own ks
          induction ks with
          | nil => rfl
          | cons k ks ih => exact ih
        refine Or.inl ⟨(fits_checks_iff _).mpr fun k hk => ?_, db, rfl, (hafter _ _).symm,
          SameElse.refl db user.pk⟩
        obtain ⟨e, he, rfl⟩ := List.mem_map.mp hk
        exact hnot e he
      have hsecond : ∀ db', SameElse db db' user.pk →
          Realizes db' user.pk ((entriesOf value).map fun e => .insert (db.entryRow user e))
            (addItems user db' value.items) := by
        intro db' hsame
        have hrows : (fun e => (.insert (db.entryRow user e) : RowWrite)) =
            fun e => .insert (db'.entryRow user e) := by
          funext e
          rw [entryRow_congr hsame]
        rw [hrows]
        exact realizes_addItems db' (hreads.imp fun _ _ hr => hr.congr hsame) fun e he =>
          hsame.foreign ▸ hnot e he
      have hrest := (realizes_cleared db user value.items).bind
        fun db' _ _ hsame => hsecond db' hsame
      have hall : Realizes db user.pk _ (Except.ok db >>= fun _ =>
          addItems user (db.cleared user value.items) value.items) :=
        hfirst.bind fun db' hok _ _ => by
          obtain rfl := Except.ok.inj hok
          exact hrest
      exact hall

end Apply

/-- The rows after the new field. -/
theorem after_associatedPlan (db : AssociationDb) (user : UserRef) (entries : List Entry)
    (own : List AuthenticatorUser) :
    after own (db.associatedPlan user entries) = entries.map (db.entryRow user) := by
  have hchecks : ∀ es : List Entry,
      after own (es.map fun e => (.check (e.provider, e.uid) : RowWrite)) = own := by
    intro es
    induction es with
    | nil => rfl
    | cons e es ih => exact ih
  have hinserts := @after_inserts _ (ℕ × DbText) _ [] (entries.map (db.entryRow user))
  rw [List.map_map] at hinserts
  rw [associatedPlan, after_append, hchecks, after_cons]
  have hnone : (Write.remove fun _ => true : RowWrite).after own = [] := by
    simp [Write.after]
  rw [hnone]
  exact hinserts

/-- The plan of the new field fits if no uid of the value and no uid that is written is another
user's, and no uid is written twice at an authenticator. -/
theorem fits_associatedPlan_iff {foreign : ℕ × DbText → Prop} (db : AssociationDb) (user : UserRef)
    (entries : List Entry) (own : List AuthenticatorUser) :
    Fits AuthenticatorUser.key foreign own (db.associatedPlan user entries) ↔
      (∀ e ∈ entries, ¬foreign (e.provider, e.uid)) ∧
      ((entries.map (db.entryRow user)).map AuthenticatorUser.key).Nodup ∧
      ∀ e ∈ entries, ¬foreign (db.entryRow user e).key := by
  have hchecks : entries.map (fun e => (.check (e.provider, e.uid) : RowWrite)) =
      (entries.map fun e => (e.provider, e.uid)).map Write.check := by
    rw [List.map_map]
    rfl
  have hinserts : entries.map (fun e => (.insert (db.entryRow user e) : RowWrite)) =
      (entries.map (db.entryRow user)).map Write.insert := by
    rw [List.map_map]
    rfl
  have hnone : (Write.remove fun _ => true : RowWrite).after
      (after own ((entries.map fun e => (e.provider, e.uid)).map Write.check)) = [] := by
    simp [Write.after]
  rw [associatedPlan, hchecks, hinserts, fits_append, fits_checks_iff, fits_cons, hnone,
    fits_inserts_iff]
  simp [Write.Fits]

/-! ## Requests -/

section Requests

/-- The writes of `_update_users_authenticators`, the user having these rows. -/
def requestPlan (db : AssociationDb) (user : UserInstance) (data : UserFields)
    (own : List AuthenticatorUser) : List RowWrite :=
  db.legacyPlan data.authenticators.join data.authenticatorUid user own ++
    match data.associatedAuthenticators with
    | none => []
    | some value =>
      db.associatedPlan (db.legacyUser data.authenticators.join user).toUserRef (entriesOf value)

/-- The username after a request. -/
def newUsername (db : AssociationDb) (stored : StoredUser) (data : UserFields) : DbText :=
  data.username.getD (db.usernames stored.pk)

/-- The uid that a row gets from a new username: at a local authenticator, the answer of
`determine_username_from_uid`. -/
def localUid (db : AssociationDb) (determine : AuthenticatorUser → DbText) (r : AuthenticatorUser) :
    Option DbText :=
  if db.isLocalAt r.provider then some (determine r) else none

/-- The username is new and goes to the local uids. -/
def Renames (db : AssociationDb) (stored : StoredUser) (data : UserFields) : Prop :=
  db.usernames stored.pk ≠ db.newUsername stored data ∧ data.associatedAuthenticators = none

instance (db : AssociationDb) (stored : StoredUser) (data : UserFields) :
    Decidable (db.Renames stored data) := by
  unfold Renames
  infer_instance

/-- The writes of a new username. -/
def renamePlan (db : AssociationDb) (determine : AuthenticatorUser → DbText) (stored : StoredUser)
    (data : UserFields) : List RowWrite :=
  if db.Renames stored data then savePlan (db.localUid determine) (db.rowsOf stored.pk) else []

/-- The instance when the deprecated fields are applied. -/
def renamedUser (db : AssociationDb) (determine : AuthenticatorUser → DbText) (stored : StoredUser)
    (data : UserFields) : UserInstance :=
  let user := { db.load stored with username := db.newUsername stored data }
  if db.Renames stored data then
    { user with
      fetched := user.fetched.map fun _ =>
        (db.rowsOf stored.pk).map (relabelled (db.localUid determine)) }
  else user

/-- The writes of an update. -/
def updatePlan (db : AssociationDb) (determine : AuthenticatorUser → DbText) (stored : StoredUser)
    (data : UserFields) : List RowWrite :=
  let rename := db.renamePlan determine stored data
  rename ++ db.requestPlan (db.renamedUser determine stored data) data
    (after (db.rowsOf stored.pk) rename)

/-- The instance of a new user. -/
def newUser (pk : ℕ) (data : UserFields) : UserInstance where
  pk := pk
  username := data.username.getD DbText.empty
  lastLoginFrom := none
  fetched := none

/-- The new value of a request names entries. -/
def Sound (db : AssociationDb) (user : ℕ) (data : UserFields) : Prop :=
  ∀ value ∈ data.associatedAuthenticators, ∀ item ∈ value.items, ∃ e, Reads db user item e

/-- The plan of a request depends on the authenticators and the usernames only. -/
theorem requestPlan_congr {pk : ℕ} (h : SameElse db db' pk) (user : UserInstance)
    (data : UserFields) (own : List AuthenticatorUser) :
    db'.requestPlan user data own = db.requestPlan user data own := by
  have hlegacy : ∀ authenticators uid, db'.legacyPlan authenticators uid user own =
      db.legacyPlan authenticators uid user own := by
    intro authenticators uid
    unfold legacyPlan exchangePlan legacyUidPlan
    simp only [uidsPlan_congr h, addPlan_congr h, h.isLocalAt]
  unfold requestPlan associatedPlan legacyUser
  rw [hlegacy, h.usernames]
  simp only [entryRow_congr h]

/-- `_update_users_authenticators` carries out its writes. -/
theorem realizes_updateUsersAuthenticators (db : AssociationDb) {user : UserInstance}
    {data : UserFields} (hfetched : ∀ rows ∈ user.fetched, ∀ r ∈ rows, r.user = user.pk)
    (hsound : db.Sound user.pk data) :
    Realizes db user.pk (db.requestPlan user data (db.rowsOf user.pk))
      (db.updateUsersAuthenticators user data) := by
  obtain ⟨result, hresult, hlegacy⟩ := realizes_processLegacy db data.authenticators.join
    data.authenticatorUid hfetched
  -- The deprecated fields may reload the username, never the pk.
  have hpk : (db.legacyUser data.authenticators.join user).pk = user.pk := by
    unfold legacyUser
    split <;> rfl
  unfold requestPlan
  have hupdate : db.updateUsersAuthenticators user data = result >>= fun db' =>
      match data.associatedAuthenticators with
      | none => .ok db'
      | some value =>
        db'.processAssociated (db.legacyUser data.authenticators.join user).toUserRef value := by
    unfold updateUsersAuthenticators
    rw [hresult]
    cases result <;> rfl
  rw [hupdate]
  refine hlegacy.bind fun db' _ _ hsame => ?_
  cases hvalue : data.associatedAuthenticators with
  | none => exact realizes_nil db' user.pk
  | some value =>
      -- The entries read in the tables after the deprecated fields as they do before.
      have hreads : ∀ item ∈ value.items, ∃ e, Reads db' user.pk item e := fun item hitem =>
        (hsound value hvalue item hitem).imp fun _ hr => hr.congr hsame
      have hplan : db.associatedPlan (db.legacyUser data.authenticators.join user).toUserRef
          (entriesOf value) = db'.associatedPlan
            (db.legacyUser data.authenticators.join user).toUserRef (entriesOf value) := by
        unfold associatedPlan
        simp only [entryRow_congr hsame]
      show Realizes db' user.pk (db.associatedPlan _ _) _
      rw [hplan, ← hpk]
      rw [← hpk] at hreads
      exact realizes_processAssociated db' _ hreads

/-- The rows in memory are the user's. -/
theorem fetched_renamedUser (db : AssociationDb) (determine : AuthenticatorUser → DbText)
    (stored : StoredUser) (data : UserFields) :
    ∀ rows ∈ (db.renamedUser determine stored data).fetched, ∀ r ∈ rows, r.user = stored.pk := by
  have hown : ∀ r ∈ db.rowsOf stored.pk, r.user = stored.pk := fun r hr => (mem_rowsOf.mp hr).2
  have hloaded : ∀ rows ∈ (db.load stored).fetched, rows = db.rowsOf stored.pk := by
    intro rows hrows
    unfold load at hrows
    dsimp only at hrows
    split at hrows
    · exact (Option.some.inj hrows).symm
    · cases hrows
  intro rows hrows r hr
  unfold renamedUser at hrows
  dsimp only at hrows
  split at hrows
  · obtain ⟨-, -, rfl⟩ := Option.map_eq_some_iff.mp hrows
    obtain ⟨r', hr', rfl⟩ := List.mem_map.mp hr
    exact hown r' hr'
  · rw [hloaded rows hrows] at hr
    exact hown r hr

/-- The instance has the key of the user. -/
theorem pk_renamedUser (db : AssociationDb) (determine : AuthenticatorUser → DbText)
    (stored : StoredUser) (data : UserFields) :
    (db.renamedUser determine stored data).pk = stored.pk := by
  unfold renamedUser
  split <;> rfl

/-- A new username carries out its writes. -/
theorem realizes_rename (db : AssociationDb) (determine : AuthenticatorUser → DbText)
    (stored : StoredUser) (data : UserFields) :
    ∃ result, db.updateUsername determine stored (db.newUsername stored data) data =
        result.map (fun db' => (db', db.renamedUser determine stored data)) ∧
      Realizes db stored.pk (db.renamePlan determine stored data) result := by
  unfold renamePlan renamedUser updateUsername
  by_cases hrenames : db.Renames stored data
  · have hrows : db.allRows { db.load stored with username := db.newUsername stored data } =
        db.rowsOf stored.pk := by
      unfold allRows load
      dsimp only
      split <;> rfl
    have hown : ∀ r ∈ db.rowsOf stored.pk, r.user = stored.pk := fun r hr => (mem_rowsOf.mp hr).2
    obtain ⟨result, hresult, hrealizes⟩ := realizes_saveUids db (db.localUid determine) hown
    refine ⟨result, ?_, by rwa [if_pos hrenames]⟩
    rw [if_pos hrenames]
    refine (if_pos hrenames).trans ?_
    unfold updateLocalAuthenticatorUid
    rw [hrows]
    show (saveUids (db.localUid determine) db _ >>= _) = _
    rw [hresult]
    cases result <;> rfl
  · rw [if_neg hrenames, if_neg hrenames]
    exact ⟨.ok db, if_neg hrenames, realizes_nil db stored.pk⟩

/-- An update carries out its writes, and then saves the username. -/
theorem realizes_update (db : AssociationDb) (determine : AuthenticatorUser → DbText)
    {stored : StoredUser} {data : UserFields} (hsound : db.Sound stored.pk data) :
    ∃ result, db.update determine stored data =
        result.map (fun db' => db'.setUsername stored.pk (db.newUsername stored data)) ∧
      Realizes db stored.pk (db.updatePlan determine stored data) result := by
  obtain ⟨renamed, hrenamed, hrename⟩ := db.realizes_rename determine stored data
  have hpk := db.pk_renamedUser determine stored data
  refine ⟨renamed >>= fun db' => db'.updateUsersAuthenticators
    (db.renamedUser determine stored data) data, ?_, ?_⟩
  · show (db.updateUsername determine stored (db.newUsername stored data) data >>= _) = _
    rw [hrenamed]
    cases renamed with
    | error e => rfl
    | ok db' =>
        show (db'.updateUsersAuthenticators (db.renamedUser determine stored data) data >>= _) =
          (db'.updateUsersAuthenticators (db.renamedUser determine stored data) data).map _
        cases db'.updateUsersAuthenticators (db.renamedUser determine stored data) data <;> rfl
  · refine hrename.bind fun db' _ hrows hsame => ?_
    have hfetched := db.fetched_renamedUser determine stored data
    have hsound' : db'.Sound (db.renamedUser determine stored data).pk data := by
      rw [hpk]
      exact fun value hvalue item hitem =>
        (hsound value hvalue item hitem).imp fun _ hr => hr.congr hsame
    have hrest := realizes_updateUsersAuthenticators db' (hpk ▸ hfetched) hsound'
    rw [hpk, hrows, requestPlan_congr hsame] at hrest
    exact hrest

/-- An update can be applied exactly if its plan fits. -/
theorem isOk_update_iff {determine : AuthenticatorUser → DbText} {stored : StoredUser}
    {data : UserFields} (hsound : db.Sound stored.pk data) :
    (∃ db', db.update determine stored data = .ok db') ↔
      db.PlanFits stored.pk (db.updatePlan determine stored data) := by
  obtain ⟨result, hresult, hrealizes⟩ := db.realizes_update determine hsound
  rw [← hrealizes.isOk_iff, hresult]
  cases result with
  | error e => simp [Except.map]
  | ok db' => simp [Except.map]

/-- The creation of a user carries out its writes. -/
theorem realizes_create (db : AssociationDb) (pk : ℕ) {data : UserFields}
    (hsound : db.Sound pk data) :
    Realizes (db.setUsername pk (data.username.getD DbText.empty)) pk
      ((db.setUsername pk (data.username.getD DbText.empty)).requestPlan (newUser pk data) data
        (db.rowsOf pk))
      (db.create pk data) := by
  have hsound' : (db.setUsername pk (data.username.getD DbText.empty)).Sound pk data :=
    fun value hvalue item hitem => (hsound value hvalue item hitem).imp fun _ hr =>
      ⟨hr.key, hr.provider_mem, hr.details, hr.empty⟩
  have hfetched : ∀ rows ∈ (newUser pk data).fetched, ∀ r ∈ rows, r.user = (newUser pk data).pk :=
    fun rows hrows => nomatch hrows
  exact realizes_updateUsersAuthenticators _ hfetched hsound'

/-- With the new field the rows of an update are those of its entries. -/
theorem rowsOf_update {determine : AuthenticatorUser → DbText} {stored : StoredUser}
    {data : UserFields} {value : Dict Json} (hsound : db.Sound stored.pk data)
    (hvalue : data.associatedAuthenticators = some value)
    (hok : db.update determine stored data = .ok db') :
    db'.rowsOf stored.pk = (entriesOf value).map (db.entryRow
      (db.legacyUser data.authenticators.join
        { db.load stored with username := db.newUsername stored data }).toUserRef) := by
  obtain ⟨result, hresult, hrealizes⟩ := db.realizes_update determine hsound
  rw [hok] at hresult
  cases result with
  | error e => cases hresult
  | ok applied =>
      obtain rfl := Except.ok.inj hresult
      obtain ⟨-, hrows, -⟩ := hrealizes.of_ok
      have hrenames : ¬db.Renames stored data := fun h => by
        have hnone := h.2
        rw [hvalue] at hnone
        cases hnone
      have hrenamed : db.renamedUser determine stored data =
          { db.load stored with username := db.newUsername stored data } := if_neg hrenames
      show applied.rowsOf stored.pk = _
      rw [hrows, updatePlan, renamePlan, if_neg hrenames, hrenamed, requestPlan, hvalue]
      dsimp only
      rw [List.nil_append, after_append]
      exact db.after_associatedPlan _ _ _

/-- And so are those of a creation. -/
theorem rowsOf_create {pk : ℕ} {data : UserFields} {value : Dict Json}
    (hsound : db.Sound pk data) (hvalue : data.associatedAuthenticators = some value)
    (hok : db.create pk data = .ok db') :
    db'.rowsOf pk = (entriesOf value).map (db.entryRow ⟨pk, data.username.getD DbText.empty⟩) := by
  have hrealizes := db.realizes_create pk hsound
  rw [hok] at hrealizes
  obtain ⟨-, hrows, -⟩ := hrealizes.of_ok
  -- a reload leaves the new username
  have huser : ((db.setUsername pk (data.username.getD DbText.empty)).legacyUser
      data.authenticators.join (newUser pk data)).toUserRef =
        ⟨pk, data.username.getD DbText.empty⟩ := by
    unfold legacyUser newUser setUsername
    split
    · simp
    · rfl
  rw [hrows, requestPlan, hvalue, huser]
  dsimp only
  rw [after_append]
  exact after_associatedPlan _ _ _ _

/-- The username that the instance has when the new field is applied: an empty list of the
deprecated field has reloaded the stored one. -/
def fieldUsername (db : AssociationDb) (action : Action) (stored : StoredUser) (data : UserFields) :
    DbText :=
  if action ≠ .create ∧ data.authenticators.join = some [] then db.usernames stored.pk
  else db.usernameAfter action stored data

/-- With the new field the rows after a request are those of its entries. -/
theorem rowsOf_perform {determine : AuthenticatorUser → DbText} {action : Action}
    {stored : StoredUser} {data : UserFields} {value : Dict Json}
    (hsound : db.Sound stored.pk data) (hvalue : data.associatedAuthenticators = some value)
    (hok : db.perform determine action stored data = .ok db') :
    db'.rowsOf stored.pk = (entriesOf value).map
      (db.entryRow ⟨stored.pk, db.fieldUsername action stored data⟩) := by
  have hupdate : db.update determine stored data = .ok db' →
      db'.rowsOf stored.pk = (entriesOf value).map
        (db.entryRow ⟨stored.pk, if data.authenticators.join = some [] then
          db.usernames stored.pk else data.username.getD (db.usernames stored.pk)⟩) := by
    intro hok
    rw [rowsOf_update hsound hvalue hok, legacyUser]
    split <;> rfl
  cases action with
  | create => exact rowsOf_create hsound hvalue hok
  | put => simpa [fieldUsername, usernameAfter] using hupdate hok
  | patch => simpa [fieldUsername, usernameAfter] using hupdate hok

/-- The new field of a valid request names entries. -/
theorem sound_of_valid {validators : UserValidators} {superuser : Bool} {action : Action}
    {user : ℕ} {otherErrors : List String} {payload : UserPayload} {data : UserFields}
    (h : db.runValidation validators superuser action user otherErrors payload = .valid data) :
    db.Sound user data := by
  obtain ⟨given, -, -, -, hassociated, -, hvalidate⟩ := valid_of_runValidation h
  obtain ⟨-, hcompleted, -⟩ := valid_of_validate hvalidate
  intro value hvalue
  rw [(completed_eq hcompleted).1] at hvalue
  have hgiven : given.associatedAuthenticators = some value := hvalue
  rcases optional_eq_valid hassociated with ⟨-, hnone⟩ | ⟨json, submitted, -, hfield, hsome⟩
  · rw [hgiven] at hnone
    cases hnone
  · obtain rfl : value = submitted := Option.some.inj (hgiven.symm.trans hsome)
    exact reads_of_valid hfield

end Requests

end AssociationDb

end AapGateway.Users
