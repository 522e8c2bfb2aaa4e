import AapGateway.Users.AssociatedAuthenticators

/-!
# Who changes authenticator associations

A request of someone who is no superuser passes the validation of `associated_authenticators` with
an empty value or with the value on record. Both are applied: the update removes every association
of the user first and adds those of the value. An empty value leaves none, and the value on record
leaves one association for each authenticator, at a local authenticator under the username.

## Main results

* `associationsUnchanged_iff`: when such a request leaves the associations as they were;
* `not_associationsUnchanged_empty`: an empty object removes them.
-/

namespace AapGateway.Users

namespace AssociationDb

variable {db : AssociationDb} {user : UserRef}

/-- A user is associated with an authenticator, with these details. -/
def Associated (db : AssociationDb) (user provider : ℕ) (d : Details) : Prop :=
  ∃ r ∈ db.rowsOf user, r.provider = provider ∧ r.details = d

/-- The user has the associations it had. -/
def AssociationsUnchanged (before after : AssociationDb) (user : ℕ) : Prop :=
  ∀ provider d, after.Associated user provider d ↔ before.Associated user provider d

/-- A local authenticator. -/
def isLocalAt (db : AssociationDb) (provider : ℕ) : Bool :=
  (db.authenticator? provider).any Authenticator.isLocal

/-- The rows of a user. -/
theorem mem_rowsOf {user : ℕ} {r : AuthenticatorUser} :
    r ∈ db.rowsOf user ↔ r ∈ db.rows ∧ r.user = user := by
  simp [rowsOf]

/-- Two rows with the uid of one authenticator are one row. -/
theorem eq_of_uid_eq {r r' : AuthenticatorUser} (hr : r ∈ db.rows) (hr' : r' ∈ db.rows)
    (hprovider : r.provider = r'.provider) (huid : r.uid = r'.uid) : r = r' :=
  List.inj_on_of_nodup_map db.unique hr hr' (Prod.ext hprovider huid)

/-- An authenticator that is found has the id. -/
theorem id_of_authenticator? {id : ℕ} {a : Authenticator} (h : db.authenticator? id = some a) :
    a.id = id := by
  have hfound := List.find?_some h
  exact Int.ofNat_inj.mp (of_decide_eq_true hfound)

/-- An authenticator is found by its id. -/
theorem authenticator?_of_mem {provider : ℕ}
    (h : provider ∈ db.authenticators.map Authenticator.id) :
    ∃ a, db.authenticator? provider = some a ∧ a.id = provider := by
  obtain ⟨a, ha, hid⟩ := List.mem_map.mp h
  cases hfind : db.authenticator? provider with
  | none =>
      have hnone := List.find?_eq_none.mp hfind a ha
      exact absurd (decide_eq_true (congrArg Nat.cast hid)) hnone
  | some b => exact ⟨b, rfl, id_of_authenticator? hfind⟩

/-- The authenticator of a row exists. -/
theorem exists_authenticator? {r : AuthenticatorUser} (hr : r ∈ db.rows) :
    ∃ a, db.authenticator? r.provider = some a ∧ a.id = r.provider :=
  authenticator?_of_mem (db.provider_mem r hr)

/-! ## The entries on record -/

/-- An entry on record is a row's. -/
theorem exists_row_of_entry {user : ℕ} {entry : ℕ × Details}
    (h : entry ∈ db.getAssociatedAuthenticators user) :
    ∃ r ∈ db.rowsOf user, r.provider = entry.1 ∧ r.details = entry.2 := by
  obtain ⟨r, hr, heq⟩ := (Table.mem_foldl_upsert h).resolve_left List.not_mem_nil
  exact ⟨r, hr, congrArg Prod.fst heq, congrArg Prod.snd heq⟩

/-- Every row's authenticator has an entry. -/
theorem exists_entry_of_row {user : ℕ} {r : AuthenticatorUser} (hr : r ∈ db.rowsOf user) :
    ∃ entry ∈ db.getAssociatedAuthenticators user, entry.1 = r.provider :=
  List.mem_map.mp (Table.mem_map_key_foldl_upsert (Or.inr ⟨r, hr, rfl⟩))

/-- An authenticator has one entry. -/
theorem entry_eq_of_fst_eq {user : ℕ} {e e' : ℕ × Details}
    (he : e ∈ db.getAssociatedAuthenticators user) (he' : e' ∈ db.getAssociatedAuthenticators user)
    (h : e.1 = e'.1) : e = e' := by
  have hnodup : ((db.getAssociatedAuthenticators user).map Prod.fst).Nodup :=
    Table.nodup_map_key_foldl_upsert (by simp)
  exact List.inj_on_of_nodup_map hnodup he he' h

/-! ## Removing all associations -/

/-- The rows left by a removal. -/
theorem mem_rows_removeAuthenticators (db : AssociationDb) {ids : List ℕ} {user : ℕ}
    {r : AuthenticatorUser} :
    r ∈ (db.removeAuthenticators ids user).rows ↔
      r ∈ db.rows ∧ ¬(r.user = user ∧ r.provider ∈ ids) := by
  unfold removeAuthenticators
  induction ids generalizing db with
  | nil => simp
  | cons id ids ih =>
      rw [List.foldl_cons, ih]
      show r ∈ Table.erase _ db.rows ∧ _ ↔ _
      rw [Table.mem_erase, decide_eq_false_iff_not, List.mem_cons]
      tauto

/-- A removal leaves the authenticators. -/
theorem authenticators_removeAuthenticators (db : AssociationDb) (ids : List ℕ) (user : ℕ) :
    (db.removeAuthenticators ids user).authenticators = db.authenticators := by
  unfold removeAuthenticators
  induction ids generalizing db with
  | nil => rfl
  | cons id ids ih => exact ih _

/-- The tables when the associations of the user are removed and nothing is added yet. -/
def cleared (db : AssociationDb) (user : UserRef) (items : List (String × Json)) : AssociationDb :=
  (db.removeAuthenticators ((db.rowsOf user.pk).map AuthenticatorUser.provider) user.pk).setEmail
    user.pk (firstEmail? items)

/-- Setting an e-mail leaves the rows. -/
@[simp]
theorem rows_setEmail (db : AssociationDb) (user : ℕ) (email : Option String) :
    (db.setEmail user email).rows = db.rows := by cases email <;> rfl

/-- Setting an e-mail leaves the authenticators. -/
@[simp]
theorem authenticators_setEmail (db : AssociationDb) (user : ℕ) (email : Option String) :
    (db.setEmail user email).authenticators = db.authenticators := by cases email <;> rfl

/-- The rows of the other users are left. -/
theorem mem_rows_cleared {items : List (String × Json)} {r : AuthenticatorUser} :
    r ∈ (db.cleared user items).rows ↔ r ∈ db.rows ∧ r.user ≠ user.pk := by
  rw [cleared, rows_setEmail, mem_rows_removeAuthenticators]
  refine and_congr_right fun hr => not_congr ⟨fun h => h.1, fun h => ⟨h, ?_⟩⟩
  exact List.mem_map_of_mem (mem_rowsOf.mpr ⟨hr, h⟩)

/-- The authenticators are left. -/
theorem authenticators_cleared {items : List (String × Json)} :
    (db.cleared user items).authenticators = db.authenticators := by
  rw [cleared, authenticators_setEmail, authenticators_removeAuthenticators]

/-! ## A value that matches the record -/

/-- A value that matches an entry holds its uid and its e-mail. -/
theorem details_of_matches {d : Details} {v : Json} (h : matchesDetails d v = true) :
    ∃ data, v.asDict? = some data ∧ data.get? "uid" = some (.str d.uid.text) ∧
      data.get? "email" = d.email.map .str := by
  unfold matchesDetails at h
  split at h
  · cases h
  · rename_i data hdata
    rw [Bool.and_eq_true, Bool.and_eq_true] at h
    obtain ⟨⟨-, huid⟩, hemail⟩ := h
    refine ⟨data, hdata, ?_, ?_⟩
    · split at huid
      · rename_i uid hget
        rw [hget, of_decide_eq_true huid]
      · cases huid
    · split at hemail
      · rename_i hget hnone
        rw [hget, hnone]
        rfl
      · rename_i email recorded hget hsome
        rw [hget, hsome, of_decide_eq_true hemail]
        rfl
      · cases hemail

/-- An item of a value that matches the entry of an authenticator. -/
def MatchesEntry (item : String × Json) (entry : ℕ × Details) : Prop :=
  item.1 = toString entry.1 ∧ matchesDetails entry.2 item.2 = true

/-- A value on record is a dictionary whose items match entries, and it leaves no entry out. -/
theorem matches_of_matchesRecord {value : Json} {submitted : Dict Json} {user : ℕ}
    (hvalue : value.asDict? = some submitted)
    (h : matchesRecord (db.getAssociatedAuthenticators user) value = true) :
    (∀ item ∈ submitted.items, ∃ entry ∈ db.getAssociatedAuthenticators user,
      MatchesEntry item entry) ∧
    ∀ entry ∈ db.getAssociatedAuthenticators user, ∃ item ∈ submitted.items,
      MatchesEntry item entry := by
  rw [matchesRecord, hvalue, Bool.and_eq_true, List.all_eq_true, List.all_eq_true] at h
  obtain ⟨hkeys, hentries⟩ := h
  have hfound : ∀ entry ∈ db.getAssociatedAuthenticators user,
      ∃ item ∈ submitted.items, MatchesEntry item entry := by
    intro entry hentry
    have hmatch := hentries entry hentry
    split at hmatch
    · rename_i v hget
      exact ⟨_, submitted.get?_eq_some.mp hget, rfl, hmatch⟩
    · cases hmatch
  refine ⟨fun item hitem => ?_, hfound⟩
  obtain ⟨entry, hentry, hkey⟩ := List.any_eq_true.mp (hkeys item hitem)
  obtain ⟨item', hitem', hmatch⟩ := hfound entry hentry
  have hsame : item' = item := List.inj_on_of_nodup_map submitted.nodup hitem' hitem
    (hmatch.1.trans (of_decide_eq_true hkey))
  exact ⟨entry, hentry, hsame ▸ hmatch⟩

/-- The items of a value on record match the entries, one by one. -/
theorem exists_entries {value : Json} {submitted : Dict Json} {user : ℕ}
    (hvalue : value.asDict? = some submitted)
    (h : matchesRecord (db.getAssociatedAuthenticators user) value = true) :
    ∃ entries, List.Forall₂ MatchesEntry submitted.items entries ∧
      (entries.map Prod.fst).Nodup ∧
      ∀ entry, entry ∈ entries ↔ entry ∈ db.getAssociatedAuthenticators user := by
  obtain ⟨hitems, hentries⟩ := matches_of_matchesRecord hvalue h
  have hinhabited : Nonempty (ℕ × Details) := ⟨(0, ⟨DbText.empty, none⟩)⟩
  choose! f hf hmatch using hitems
  refine ⟨submitted.items.map f, ?_, ?_, fun entry => ⟨fun hentry => ?_, fun hentry => ?_⟩⟩
  · rw [List.forall₂_map_right_iff, List.forall₂_same]
    exact hmatch
  · -- the ids are distinct since the keys are their texts
    refine List.Nodup.of_map (toString : ℕ → String) ?_
    have hkeys : ((submitted.items.map f).map Prod.fst).map toString =
        submitted.items.map Prod.fst := by
      rw [List.map_map, List.map_map]
      exact List.map_congr_left fun item hitem => (hmatch item hitem).1.symm
    rw [hkeys]
    exact submitted.nodup
  · obtain ⟨item, hitem, rfl⟩ := List.mem_map.mp hentry
    exact hf item hitem
  · obtain ⟨item, hitem, hkey, -⟩ := hentries entry hentry
    refine List.mem_map.mpr ⟨item, hitem, entry_eq_of_fst_eq (hf item hitem) hentry ?_⟩
    exact Nat.repr_injective ((hmatch item hitem).1.symm.trans hkey)

/-! ## Adding the entries on record -/

/-- An entry is on record. -/
def OnRecord (db : AssociationDb) (user : UserRef) (entry : ℕ × Details) : Prop :=
  ∃ r ∈ db.rows, r.user = user.pk ∧ r.provider = entry.1 ∧ r.details = entry.2

/-- The row that is created for an entry on record. -/
def recreated (db : AssociationDb) (user : UserRef) (entry : ℕ × Details) : AuthenticatorUser where
  provider := entry.1
  user := user.pk
  uid := if db.isLocalAt entry.1 = true ∧ entry.2.uid ≠ user.username then user.username
    else entry.2.uid
  email := entry.2.email

/-- The username that a local authenticator requires is another user's uid there. -/
def Blocked (db : AssociationDb) (user : UserRef) (entry : ℕ × Details) : Prop :=
  db.isLocalAt entry.1 = true ∧ entry.2.uid ≠ user.username ∧
    ∃ o ∈ db.rows, o.user ≠ user.pk ∧ o.provider = entry.1 ∧ o.uid = user.username

/-- The tables while some entries are still to be added: the other users' rows are those that were
there, and the user has no row at the authenticators to come. -/
structure Adding (db current : AssociationDb) (user : UserRef) (todo : List (ℕ × Details)) :
    Prop where
  authenticators : current.authenticators = db.authenticators
  others : ∀ o, o.user ≠ user.pk → (o ∈ current.rows ↔ o ∈ db.rows)
  fresh : ∀ r ∈ current.rows, r.user = user.pk → r.provider ∉ todo.map Prod.fst

variable {current : AssociationDb} {entry : ℕ × Details} {todo : List (ℕ × Details)}

/-- The rows of another user do not clash with an entry on record. -/
theorem not_taken_of_onRecord (hrecord : db.OnRecord user entry) {o : AuthenticatorUser}
    (ho : o ∈ db.rows) (huser : o.user ≠ user.pk) (hprovider : o.provider = entry.1) :
    o.uid ≠ entry.2.uid := by
  obtain ⟨r, hr, hruser, hrprovider, hrdetails⟩ := hrecord
  intro huid
  have hruid : r.uid = entry.2.uid := congrArg Details.uid hrdetails
  have hsame := eq_of_uid_eq ho hr (hprovider.trans hrprovider.symm) (huid.trans hruid.symm)
  exact huser (hsame ▸ hruser)

/-- No other user's row conflicts with an entry on record. -/
theorem uidConflict?_eq_none (hothers : ∀ o, o.user ≠ user.pk → (o ∈ current.rows ↔ o ∈ db.rows))
    (hrecord : db.OnRecord user entry) :
    current.uidConflict? entry.1 entry.2.uid user.pk = none := by
  rw [uidConflict?, List.find?_eq_none]
  intro o ho hconflict
  obtain ⟨hprovider, huid, huser⟩ := of_decide_eq_true hconflict
  exact not_taken_of_onRecord hrecord ((hothers o huser).mp ho) huser hprovider huid

/-- The authenticator of an entry on record. -/
theorem authenticator?_of_onRecord (hauth : current.authenticators = db.authenticators)
    (hrecord : db.OnRecord user entry) :
    ∃ a, current.authenticator? entry.1 = some a ∧ a.id = entry.1 ∧
      a.isLocal = db.isLocalAt entry.1 := by
  obtain ⟨r, hr, -, hprovider, -⟩ := hrecord
  obtain ⟨a, ha, hid⟩ := exists_authenticator? hr
  rw [hprovider] at ha hid
  refine ⟨a, ?_, hid, ?_⟩
  · rw [authenticator?, hauth]
    exact ha
  · rw [isLocalAt, ha]
    rfl

/-- The key of an entry on record reads as its authenticator. -/
theorem pyInt_of_onRecord (hrecord : db.OnRecord user entry) :
    pyInt (toString entry.1) = some (entry.1 : ℤ) := by
  obtain ⟨a, -, hid, -⟩ := authenticator?_of_onRecord rfl hrecord
  exact pyInt_key (hid ▸ a.id_lt)

/-- A row with the uid of a recreated one is another user's that blocks the entry. -/
theorem pair_mem_iff_blocked (h : Adding db current user (entry :: todo))
    (hrecord : db.OnRecord user entry) :
    ((db.recreated user entry).provider, (db.recreated user entry).uid) ∈
      current.rows.map (fun r => (r.provider, r.uid)) ↔ db.Blocked user entry := by
  constructor
  · intro hmem
    obtain ⟨o, ho, hpair⟩ := List.mem_map.mp hmem
    have hprovider : o.provider = entry.1 := congrArg Prod.fst hpair
    have huid : o.uid = (db.recreated user entry).uid := congrArg Prod.snd hpair
    have huser : o.user ≠ user.pk := by
      intro huser
      exact h.fresh o ho huser (hprovider ▸ List.mem_cons_self)
    have hodb := (h.others o huser).mp ho
    rw [recreated] at huid
    by_cases hlocal : db.isLocalAt entry.1 = true ∧ entry.2.uid ≠ user.username
    · rw [if_pos hlocal] at huid
      exact ⟨hlocal.1, hlocal.2, o, hodb, huser, hprovider, huid⟩
    · rw [if_neg hlocal] at huid
      exact absurd huid (not_taken_of_onRecord hrecord hodb huser hprovider)
  · rintro ⟨hlocal, hne, o, ho, huser, hprovider, huid⟩
    refine List.mem_map.mpr ⟨o, (h.others o huser).mpr ho, ?_⟩
    rw [recreated, if_pos ⟨hlocal, hne⟩, hprovider, huid]

/-- Creating the association of an entry on record is creating its row. -/
theorem createAuthenticatorUser_eq (h : Adding db current user (entry :: todo))
    (hrecord : db.OnRecord user entry) :
    current.createAuthenticatorUser entry.1 entry.2.uid user entry.2.email =
      match current.createRow (db.recreated user entry) with
      | some db => .created db
      | none => .integrityError := by
  obtain ⟨a, ha, hid, hlocal⟩ := authenticator?_of_onRecord h.authenticators hrecord
  rw [createAuthenticatorUser, ha]
  simp only [hid, uidConflict?_eq_none h.others hrecord, hlocal]
  rfl

/-- An entry that is blocked stops the update. -/
theorem add_of_blocked (h : Adding db current user (entry :: todo))
    (hrecord : db.OnRecord user entry) (hblocked : db.Blocked user entry) :
    current.addAuthenticatorFromAssociatedField entry.1 entry.2.uid user entry.2.email = none := by
  have hcreate : current.createRow (db.recreated user entry) = none := by
    rw [createRow, dif_neg]
    exact fun hok => hok.1 ((pair_mem_iff_blocked h hrecord).mpr hblocked)
  rw [addAuthenticatorFromAssociatedField, createAuthenticatorUser_eq h hrecord, hcreate]

/-- An entry that is not blocked gets its row. -/
theorem add_of_not_blocked (h : Adding db current user (entry :: todo))
    (hnodup : ((entry :: todo).map Prod.fst).Nodup) (hrecord : db.OnRecord user entry)
    (hblocked : ¬db.Blocked user entry) :
    ∃ next, current.addAuthenticatorFromAssociatedField entry.1 entry.2.uid user entry.2.email =
        some next ∧
      Adding db next user todo ∧
      ∀ r, r ∈ next.rows ↔ r ∈ current.rows ∨ r = db.recreated user entry := by
  obtain ⟨a, ha, hid, -⟩ := authenticator?_of_onRecord h.authenticators hrecord
  have hprovider : (db.recreated user entry).provider ∈
      current.authenticators.map Authenticator.id :=
    List.mem_map.mpr ⟨a, List.mem_of_find?_eq_some ha, hid⟩
  have hok := And.intro (fun hmem => hblocked ((pair_mem_iff_blocked h hrecord).mp hmem)) hprovider
  cases hcreate : current.createRow (db.recreated user entry) with
  | none =>
      rw [createRow, dif_pos hok] at hcreate
      cases hcreate
  | some next =>
      refine ⟨next, ?_, ?_⟩
      · rw [addAuthenticatorFromAssociatedField, createAuthenticatorUser_eq h hrecord, hcreate]
      · rw [createRow, dif_pos hok] at hcreate
        cases hcreate
        have hmem : ∀ r, r ∈ current.rows ++ [db.recreated user entry] ↔
            r ∈ current.rows ∨ r = db.recreated user entry := by simp
        refine ⟨⟨h.authenticators, fun o ho => ?_, fun r hr huser hlater => ?_⟩, hmem⟩
        · refine (hmem o).trans ⟨fun hrow => ?_, fun hrow => Or.inl ((h.others o ho).mpr hrow)⟩
          rcases hrow with hrow | rfl
          · exact (h.others o ho).mp hrow
          · exact absurd rfl ho
        · rcases (hmem r).mp hr with hrow | rfl
          · exact h.fresh r hrow huser (List.mem_cons_of_mem _ hlater)
          · exact (List.nodup_cons.mp hnodup).1 hlater

/-- Adding an item that matches an entry is adding the entry. -/
theorem addAll_cons_of_matches {item : String × Json} (hmatch : MatchesEntry item entry)
    (hrecord : db.OnRecord user entry) (items : List (String × Json)) :
    addAll user current (item :: items) =
      (current.addAuthenticatorFromAssociatedField entry.1 entry.2.uid user entry.2.email).bind
        fun next => addAll user next items := by
  obtain ⟨key, v⟩ := item
  obtain ⟨rfl, hdetails⟩ := hmatch
  obtain ⟨data, hdata, huid, hemail⟩ := details_of_matches hdetails
  have huid' : data.value? "uid" = some (.str entry.2.uid.text) := by rw [Dict.value?, huid]
  have hemail' : data.value? "email" = entry.2.email.map .str := by
    rw [Dict.value?, hemail]
    cases entry.2.email <;> rfl
  rw [addAll]
  simp only [hdata, huid', hemail', pyInt_of_onRecord hrecord, DbText.ofString?_text,
    Option.bind_eq_bind, Option.bind_some]
  cases entry.2.email <;> rfl

/-- Adding the entries on record stops at a blocked one, and otherwise recreates their rows. -/
theorem addAll_of_matches {items : List (String × Json)} {entries : List (ℕ × Details)}
    (hmatch : List.Forall₂ MatchesEntry items entries) (h : Adding db current user entries)
    (hnodup : (entries.map Prod.fst).Nodup) (hrecord : ∀ entry ∈ entries, db.OnRecord user entry) :
    ((∃ entry ∈ entries, db.Blocked user entry) → addAll user current items = none) ∧
    ((∀ entry ∈ entries, ¬db.Blocked user entry) →
      ∃ next, addAll user current items = some next ∧
        ∀ r, r ∈ next.rows ↔ r ∈ current.rows ∨ ∃ entry ∈ entries,
          r = db.recreated user entry) := by
  induction hmatch generalizing current with
  | nil =>
      refine ⟨fun ⟨entry, hentry, _⟩ => absurd hentry List.not_mem_nil, fun _ => ⟨current, rfl, ?_⟩⟩
      simp
  | @cons item entry items entries hitem hitems ih =>
      have hthis := hrecord entry List.mem_cons_self
      have hlater := fun e he => hrecord e (List.mem_cons_of_mem _ he)
      rw [addAll_cons_of_matches hitem hthis]
      by_cases hblocked : db.Blocked user entry
      · rw [add_of_blocked h hthis hblocked]
        exact ⟨fun _ => rfl, fun hall => absurd hblocked (hall entry List.mem_cons_self)⟩
      · obtain ⟨next, hnext, hadding, hrows⟩ := add_of_not_blocked h hnodup hthis hblocked
        obtain ⟨hsome, hnone⟩ := ih hadding (List.nodup_cons.mp hnodup).2 hlater
        rw [hnext, Option.bind_some]
        constructor
        · rintro ⟨e, he, hb⟩
          rcases List.mem_cons.mp he with rfl | he
          · exact absurd hb hblocked
          · exact hsome ⟨e, he, hb⟩
        · intro hall
          obtain ⟨last, hlast, hlastRows⟩ := hnone fun e he => hall e (List.mem_cons_of_mem _ he)
          refine ⟨last, hlast, fun r => ?_⟩
          rw [hlastRows, hrows]
          simp only [List.mem_cons, or_and_right, exists_or, exists_eq_left, or_assoc]

/-- The entries on record are in no conflict. -/
theorem validateConflicts_of_matches {items : List (String × Json)} {entries : List (ℕ × Details)}
    (hmatch : List.Forall₂ MatchesEntry items entries)
    (hrecord : ∀ entry ∈ entries, db.OnRecord user entry) :
    db.validateConflicts user.pk items = some [] := by
  induction hmatch with
  | nil => rfl
  | @cons item entry items entries hitem hitems ih =>
      have hrest := ih fun e he => hrecord e (List.mem_cons_of_mem _ he)
      have hthis := hrecord entry List.mem_cons_self
      obtain ⟨key, v⟩ := item
      obtain ⟨rfl, hdetails⟩ := hitem
      obtain ⟨data, hdata, huid, -⟩ := details_of_matches hdetails
      obtain ⟨a, ha, hid, -⟩ := authenticator?_of_onRecord rfl hthis
      have hnone := uidConflict?_eq_none (fun _ _ => Iff.rfl) hthis
      rw [validateConflicts]
      simp only [hdata, huid, pyInt_of_onRecord hthis, DbText.ofString?_text, hrest, ha, hid,
        hnone, Option.bind_eq_bind, Option.bind_some, Option.pure_def, ite_self]

/-! ## What an update leaves -/

/-- A value that passes as an empty one. -/
def Submitted.Empties (field : Submitted) : Prop :=
  field.value.truthy = false ∧ (field.value = .null → field.isForm = true)

/-- At a local authenticator the user's name is another user's uid. -/
def LocalNameTaken (db : AssociationDb) (user : UserRef) : Prop :=
  ∃ r ∈ db.rowsOf user.pk, db.isLocalAt r.provider = true ∧
    ∃ o ∈ db.rows, o.user ≠ user.pk ∧ o.provider = r.provider ∧ o.uid = user.username

/-- The user has one association for each authenticator, at a local one under the username. -/
def Reproduced (db : AssociationDb) (user : UserRef) : Prop :=
  (∀ r ∈ db.rowsOf user.pk, ∀ r' ∈ db.rowsOf user.pk, r.provider = r'.provider → r = r') ∧
    ∀ r ∈ db.rowsOf user.pk, db.isLocalAt r.provider = true → r.uid = user.username

/-- An entry of the record is on record. -/
theorem onRecord_of_mem (h : entry ∈ db.getAssociatedAuthenticators user.pk) :
    db.OnRecord user entry := by
  obtain ⟨r, hr, hprovider, hdetails⟩ := exists_row_of_entry h
  obtain ⟨hrow, huser⟩ := mem_rowsOf.mp hr
  exact ⟨r, hrow, huser, hprovider, hdetails⟩

/-- Some entry is blocked when a local authenticator knows another user by the username. -/
theorem exists_blocked_iff :
    (∃ entry ∈ db.getAssociatedAuthenticators user.pk, db.Blocked user entry) ↔
      db.LocalNameTaken user := by
  constructor
  · rintro ⟨entry, hentry, hlocal, -, o, ho, huser, hprovider, huid⟩
    obtain ⟨r, hr, hrprovider, -⟩ := exists_row_of_entry hentry
    rw [← hrprovider] at hlocal hprovider
    exact ⟨r, hr, hlocal, o, ho, huser, hprovider, huid⟩
  · rintro ⟨r, hr, hlocal, o, ho, huser, hprovider, huid⟩
    obtain ⟨entry, hentry, hkey⟩ := exists_entry_of_row hr
    rw [← hkey] at hlocal hprovider
    refine ⟨entry, hentry, hlocal, ?_, o, ho, huser, hprovider, huid⟩
    exact huid ▸ (not_taken_of_onRecord (onRecord_of_mem hentry) ho huser hprovider).symm

/-- The details of a recreated row. -/
theorem details_recreated (h : db.OnRecord user entry) :
    (db.recreated user entry).details =
      { uid := (db.recreated user entry).uid, email := entry.2.email } := by
  obtain ⟨r, -, -, -, hdetails⟩ := h
  have hemail : entry.2.email = r.email.filter (· ≠ "") := by rw [← hdetails]; rfl
  have hidem : (r.email.filter (· ≠ "")).filter (· ≠ "") = r.email.filter (· ≠ "") := by
    cases r.email with
    | none => rfl
    | some email => by_cases h : email = "" <;> simp [Option.filter, h]
  rw [AuthenticatorUser.details, recreated]
  simp only [hemail, hidem]

/-- At a local authenticator a recreated row has the username. -/
theorem uid_recreated_of_local (h : db.isLocalAt entry.1 = true) :
    (db.recreated user entry).uid = user.username := by
  rw [recreated]
  split
  · rfl
  · rename_i hcond
    exact not_not.mp fun hne => hcond ⟨h, hne⟩

/-- An entry that is reproduced is recreated as it is. -/
theorem details_recreated_of_reproduced (h : db.Reproduced user)
    (hentry : entry ∈ db.getAssociatedAuthenticators user.pk) :
    (db.recreated user entry).details = entry.2 := by
  rw [details_recreated (onRecord_of_mem hentry)]
  obtain ⟨r, hr, hprovider, hdetails⟩ := exists_row_of_entry hentry
  have huid : (db.recreated user entry).uid = entry.2.uid := by
    rw [recreated]
    split
    · rename_i hlocal
      rw [← hprovider] at hlocal
      rw [← hdetails, ← h.2 r hr hlocal.1]
      rfl
    · rfl
  rw [huid]

/-- Recreating the rows from the record keeps the associations when they are reproduced. -/
theorem unchanged_iff_reproduced {after : AssociationDb}
    (hrows : ∀ r, r ∈ after.rowsOf user.pk ↔
      ∃ entry ∈ db.getAssociatedAuthenticators user.pk, r = db.recreated user entry) :
    AssociationsUnchanged db after user.pk ↔ db.Reproduced user := by
  constructor
  · intro hunchanged
    -- every row has the uid that its authenticator's entry is recreated with
    have huid : ∀ r ∈ db.rowsOf user.pk, ∃ entry ∈ db.getAssociatedAuthenticators user.pk,
        entry.1 = r.provider ∧ r.uid = (db.recreated user entry).uid := by
      intro r hr
      obtain ⟨r', hr', hprovider, hdetails⟩ :=
        (hunchanged r.provider r.details).mpr ⟨r, hr, rfl, rfl⟩
      obtain ⟨entry, hentry, rfl⟩ := (hrows r').mp hr'
      exact ⟨entry, hentry, hprovider, (congrArg Details.uid hdetails).symm⟩
    constructor
    · intro r hr r' hr' hprovider
      obtain ⟨entry, hentry, hkey, hr_uid⟩ := huid r hr
      obtain ⟨entry', hentry', hkey', hr'_uid⟩ := huid r' hr'
      obtain rfl := entry_eq_of_fst_eq hentry hentry' (hkey.trans (hprovider.trans hkey'.symm))
      exact eq_of_uid_eq (mem_rowsOf.mp hr).1 (mem_rowsOf.mp hr').1 hprovider
        (hr_uid.trans hr'_uid.symm)
    · intro r hr hlocal
      obtain ⟨entry, hentry, hkey, hr_uid⟩ := huid r hr
      rw [hr_uid]
      exact uid_recreated_of_local (hkey ▸ hlocal)
  · intro hreproduced provider d
    constructor
    · rintro ⟨r, hr, rfl, rfl⟩
      obtain ⟨entry, hentry, rfl⟩ := (hrows r).mp hr
      obtain ⟨r, hr, hprovider, hdetails⟩ := exists_row_of_entry hentry
      refine ⟨r, hr, hprovider, hdetails.trans ?_⟩
      exact (details_recreated_of_reproduced hreproduced hentry).symm
    · rintro ⟨r, hr, rfl, rfl⟩
      obtain ⟨entry, hentry, hkey⟩ := exists_entry_of_row hr
      obtain ⟨r', hr', hprovider, hdetails⟩ := exists_row_of_entry hentry
      obtain rfl := hreproduced.1 r hr r' hr' (hkey.symm.trans hprovider.symm)
      refine ⟨db.recreated user entry, (hrows _).mpr ⟨entry, hentry, rfl⟩, hkey, ?_⟩
      exact (details_recreated_of_reproduced hreproduced hentry).trans hdetails.symm

/-- Applying an empty value removes every association. -/
theorem unchanged_iff_of_empty :
    AssociationsUnchanged db ((db.processAssociatedAuthenticatorsField user Dict.empty).getD db)
      user.pk ↔ db.rowsOf user.pk = [] := by
  have hprocess : db.processAssociatedAuthenticatorsField user Dict.empty =
      some (db.cleared user []) := rfl
  have hnone : ∀ r, r ∉ (db.cleared user []).rowsOf user.pk := by
    intro r hr
    obtain ⟨hrow, huser⟩ := mem_rowsOf.mp hr
    exact (mem_rows_cleared.mp hrow).2 huser
  rw [hprocess, Option.getD_some]
  constructor
  · intro hunchanged
    refine List.eq_nil_iff_forall_not_mem.mpr fun r hr => ?_
    obtain ⟨r', hr', -⟩ := (hunchanged r.provider r.details).mpr ⟨r, hr, rfl, rfl⟩
    exact hnone r' hr'
  · intro hempty provider d
    constructor
    · rintro ⟨r, hr, -⟩
      exact absurd hr (hnone r)
    · rintro ⟨r, hr, -⟩
      exact absurd (hempty ▸ hr) List.not_mem_nil

/-- Applying the value on record fails when a local name is taken, and otherwise keeps the
associations when they are reproduced. -/
theorem unchanged_iff_of_record {value : Json} {submitted : Dict Json}
    (hvalue : value.asDict? = some submitted)
    (h : matchesRecord (db.getAssociatedAuthenticators user.pk) value = true) :
    AssociationsUnchanged db ((db.processAssociatedAuthenticatorsField user submitted).getD db)
      user.pk ↔ db.LocalNameTaken user ∨ db.Reproduced user := by
  obtain ⟨entries, hmatch, hnodup, hmem⟩ := exists_entries hvalue h
  have hrecord : ∀ entry ∈ entries, db.OnRecord user entry :=
    fun entry hentry => onRecord_of_mem ((hmem entry).mp hentry)
  have hprocess : db.processAssociatedAuthenticatorsField user submitted =
      addAll user (db.cleared user submitted.items) submitted.items := by
    rw [processAssociatedAuthenticatorsField, validateConflicts_of_matches hmatch hrecord]
    rfl
  have hadding : Adding db (db.cleared user submitted.items) user entries :=
    ⟨authenticators_cleared, fun o ho => mem_rows_cleared.trans (and_iff_left ho),
      fun r hr huser => absurd huser (mem_rows_cleared.mp hr).2⟩
  obtain ⟨hstops, hadds⟩ := addAll_of_matches hmatch hadding hnodup hrecord
  rw [hprocess]
  by_cases hblocked : ∃ entry ∈ entries, db.Blocked user entry
  · -- the transaction is rolled back
    rw [hstops hblocked, Option.getD_none]
    obtain ⟨entry, hentry, hb⟩ := hblocked
    have htaken := exists_blocked_iff.mp ⟨entry, (hmem entry).mp hentry, hb⟩
    exact ⟨fun _ => Or.inl htaken, fun _ _ _ => Iff.rfl⟩
  · obtain ⟨next, hnext, hrows⟩ := hadds fun entry hentry hb => hblocked ⟨entry, hentry, hb⟩
    have hnottaken : ¬db.LocalNameTaken user := by
      intro htaken
      obtain ⟨entry, hentry, hb⟩ := exists_blocked_iff.mpr htaken
      exact hblocked ⟨entry, (hmem entry).mpr hentry, hb⟩
    rw [hnext, Option.getD_some, or_iff_right hnottaken]
    refine unchanged_iff_reproduced fun r => ?_
    rw [mem_rowsOf, hrows]
    constructor
    · rintro ⟨hrow | ⟨entry, hentry, rfl⟩, huser⟩
      · exact absurd huser (mem_rows_cleared.mp hrow).2
      · exact ⟨entry, (hmem entry).mp hentry, rfl⟩
    · rintro ⟨entry, hentry, rfl⟩
      exact ⟨Or.inr ⟨entry, (hmem entry).mpr hentry, rfl⟩, rfl⟩

/-- The field's own validation rejects only a plain null. -/
theorem validateField_eq {validEmail : String → Bool} {superuser : Bool} {user : ℕ}
    {field : Submitted} (h : field.value = .null → field.isForm = true) :
    db.validateField validEmail superuser user field =
      db.validateAssociatedAuthenticators validEmail superuser user field.value := by
  obtain ⟨value, isForm⟩ := field
  cases value with
  | null =>
      have hform : isForm = true := h rfl
      subst hform
      rfl
  | _ => rfl

end AssociationDb

open AssociationDb

/-- A request of someone who is no superuser leaves the associations of the user as they were
exactly when an empty value finds none, and the value on record finds one for each authenticator, at
a local one under the username (or that name taken, and the request fails). -/
theorem associationsUnchanged_iff (db : AssociationDb) (validEmail : String → Bool) (user : UserRef)
    (field : Submitted) :
    AssociationsUnchanged db (db.updateUser validEmail false user field) user.pk ↔
      (field.Empties → db.rowsOf user.pk = []) ∧
      (field.value.truthy = true →
        matchesRecord (db.getAssociatedAuthenticators user.pk) field.value = true →
          db.LocalNameTaken user ∨ db.Reproduced user) := by
  by_cases hread : field.value = .null → field.isForm = true
  · rw [updateUser, validateField_eq hread, validateAssociatedAuthenticators]
    cases htruthy : field.value.truthy with
    | false =>
        refine unchanged_iff_of_empty.trans ?_
        have hempties : field.Empties := ⟨htruthy, hread⟩
        simp [hempties]
    | true =>
        have hempties : ¬field.Empties := fun h => absurd (htruthy.symm.trans h.1) (by decide)
        cases hdict : field.value.asDict? with
        | none =>
            have hmatch : matchesRecord (db.getAssociatedAuthenticators user.pk) field.value =
                false := by rw [matchesRecord, hdict]
            simp [hempties, hmatch, AssociationsUnchanged]
        | some submitted =>
            cases hmatch : matchesRecord (db.getAssociatedAuthenticators user.pk) field.value with
            | false => simp [hempties, AssociationsUnchanged]
            | true =>
                refine (unchanged_iff_of_record hdict hmatch).trans ?_
                simp [hempties]
  · -- a plain null is rejected
    rw [Classical.not_imp] at hread
    obtain ⟨hnull, hform⟩ := hread
    have hempties : ¬field.Empties := fun h => hform (h.2 hnull)
    have hrejected : db.updateUser validEmail false user field = db := by
      obtain ⟨value, isForm⟩ := field
      obtain rfl : value = .null := hnull
      obtain rfl : isForm = false := Bool.not_eq_true _ ▸ hform
      rfl
    rw [hrejected, hnull]
    simp [hempties, AssociationsUnchanged, Json.truthy]

/-! ## An empty value -/

/-- An LDAP authenticator and a user with a name there. -/
def ldapUser : AssociationDb where
  authenticators := [⟨2, by decide, "ldap", false⟩]
  usernames := fun _ => .lit "user"
  emails := fun _ => ""
  rows := [⟨2, 1, .lit "uid", none⟩]
  unique := by decide
  provider_mem := by decide

/-- An empty object, sent by someone who is no superuser, removes the association. -/
theorem not_associationsUnchanged_empty :
    ldapUser.Associated 1 2 ⟨.lit "uid", none⟩ ∧
    ¬AssociationsUnchanged ldapUser
      (ldapUser.updateUser (fun _ => true) false ⟨1, .lit "user"⟩ ⟨.obj [], false⟩) 1 := by
  have hbefore : ldapUser.Associated 1 2 ⟨.lit "uid", none⟩ :=
    ⟨⟨2, 1, .lit "uid", none⟩, by decide, rfl, rfl⟩
  refine ⟨hbefore, fun h => ?_⟩
  obtain ⟨r, hr, -⟩ := (h 2 ⟨.lit "uid", none⟩).mpr hbefore
  have hnone : (ldapUser.updateUser (fun _ => true) false ⟨1, .lit "user"⟩
      ⟨.obj [], false⟩).rowsOf 1 = [] := rfl
  rw [hnone] at hr
  exact List.not_mem_nil hr

end AapGateway.Users
