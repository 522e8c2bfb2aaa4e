import AapGateway.Foundations.Text
import AapGateway.Users.ReverseSync

/-!
# The e-mail policy of reverse sync

Only who may change a user may change that user's e-mail. The policy is a check of the serializer's
second stage, so a payload that fails in the first stage on another field never meets it: that field
is dropped, and the e-mail is stored. And the check sees the e-mail as its field has cleaned it,
while the e-mail of the payload is stored.

## Main results

* `emailChangesOnlyIfAllowed_iff`: the policy holds of a payload exactly when the requester may
  change the user or the payload does not bypass the check;
* `not_emailChangesOnlyIfAllowed_blanks`: blanks around the e-mail on record are stored.
-/

namespace AapGateway.Users

variable {β ρ : Type}

namespace UserModel

/-- Items that do not name an attribute leave it. -/
theorem setAll_attr_of_not_mem (row : UserRow β) {items : List (String × β)} {key : String}
    (h : key ∉ items.map Prod.fst) : (setAll row items).attr key = row.attr key := by
  unfold setAll
  induction items generalizing row with
  | nil => rfl
  | cons item items ih =>
      rw [List.map_cons, List.mem_cons, not_or] at h
      have hrest := ih { row with attr := Function.update row.attr item.1 (some item.2) } h.2
      exact hrest.trans (Function.update_of_ne h.1 _ _)

/-- An item sets its attribute. -/
theorem setAll_attr_of_mem (row : UserRow β) {items : List (String × β)}
    (hnodup : (items.map Prod.fst).Nodup) {key : String} {v : β} (h : (key, v) ∈ items) :
    (setAll row items).attr key = some v := by
  unfold setAll
  induction items generalizing row with
  | nil => exact absurd h List.not_mem_nil
  | cons item items ih =>
      rw [List.map_cons, List.nodup_cons] at hnodup
      let row' : UserRow β := { row with attr := Function.update row.attr item.1 (some item.2) }
      rcases List.mem_cons.mp h with rfl | hrest
      · have hkeep := setAll_attr_of_not_mem row' hnodup.1
        exact hkeep.trans (Function.update_self _ _ _)
      · exact ih row' hnodup.2 hrest

section Stored

variable {model : UserModel β ρ} {row : UserRow β}

/-- The e-mail on record after a row is written. -/
theorem email?_put (t : UserTable β) (row' : UserRow β) :
    email? (t.put row') row'.pk = row'.attr "email" := by
  have hget : (t.put row').get? row'.pk = some row' :=
    (Table.find?_upsert UserRow.pk row' t.rows row'.pk).trans (if_pos rfl)
  rw [email?, hget]
  rfl

/-- The e-mail on record is that of the row. -/
theorem email?_of_get? {t : UserTable β} (hrow : t.get? row.pk = some row) :
    email? t row.pk = row.attr "email" := by
  rw [email?, hrow]
  rfl

/-- The e-mail on record after some items are stored. -/
theorem email?_stored (t : UserTable β) (items : List (String × β)) :
    email? (t.put (model.saved row (setAll row items))) row.pk =
      (setAll row items).attr "email" := by
  refine (email?_put t (model.saved row (setAll row items))).trans ?_
  show (if model.isColumn "email" = true then _ else _) = _
  rw [if_pos model.isColumn_email]

/-- Items without an e-mail keep the one on record. -/
theorem email?_stored_of_not_mem {t : UserTable β} {items : List (String × β)}
    (hitems : "email" ∉ items.map Prod.fst) :
    email? (t.put (model.saved row (setAll row items))) row.pk = row.attr "email" :=
  (email?_stored t items).trans (setAll_attr_of_not_mem row hitems)

/-- An e-mail among the items replaces the one on record. -/
theorem email?_stored_of_mem {t : UserTable β} {items : List (String × β)}
    (hnodup : (items.map Prod.fst).Nodup) {email : β} (hitem : ("email", email) ∈ items) :
    email? (t.put (model.saved row (setAll row items))) row.pk = some email :=
  (email?_stored t items).trans (setAll_attr_of_mem row hnodup hitem)

end Stored

variable [DecidableEq β] (model : UserModel β ρ)

/-! ## Payloads that bypass the check -/

/-- Errors that take out some fields, and not the e-mail. -/
def sparing (errors : List String) : Option (List String) :=
  if nonFieldErrors ∈ errors ∨ "email" ∈ errors then none else some errors

/-- The fields that are taken out of a payload whose e-mail is neither checked nor taken out: a
field fails that is not the e-mail, or the base class's `validate` fails on such a field, or the
e-mail compares equal to the one on record once the fields have normalised it. -/
def unchecked (requester : Option ρ) (row : UserRow β) (data : Dict β) : Option (List String) :=
  match model.validateFields requester row data with
  | .raised => none
  | .invalid errors => sparing errors
  | .valid data =>
    match model.commonValidate requester row data with
    | .raised => none
    | .invalid errors => sparing errors
    | .valid data =>
      if data.get? "email" = none ∨ data.get? "email" = row.attr "email" then
        match model.validateAuthenticators row data with
        | .raised => none
        | .invalid errors => sparing errors
        | .valid _ => some []
      else none

/-- A payload with an e-mail that is not the one on record. -/
def NewEmail (row : UserRow β) (data : Dict β) : Prop :=
  ∃ email, data.get? "email" = some email ∧ row.attr "email" ≠ some email

/-- Items are stored in the row: the save is not refused, and it is a save of that row. -/
def Saves (t : UserTable β) (requester : Option ρ) (row : UserRow β) (target : Target)
    (items : List (String × β)) : Prop :=
  match target with
  | .new _ => model.refuses t requester row none items = false ∧
      model.pkOf (setAll row items) = row.pk
  | .existing _ =>
    let changed := items.filter (differs row)
    (∀ item ∈ changed, model.isColumn item.1 = true) ∧
      model.refuses t requester row (some (changed.map Prod.fst)) changed = false

/-- A new e-mail in the payload that is stored without the check, in a save that does not fail. -/
def Bypasses (t : UserTable β) (requester : Option ρ) (row : UserRow β) (target : Target)
    (data : Dict β) : Prop :=
  ∃ dropped, model.unchecked requester row data = some dropped ∧ NewEmail row data ∧
    model.Saves t requester row target (data.without dropped).items

/-- The stored e-mail changes only if the requester may change the user. -/
def EmailChangesOnlyIfAllowed (t : UserTable β) (requester : ρ) (row : UserRow β) (target : Target)
    (data : Dict β) : Prop :=
  email? (model.save t (some requester) target data) row.pk ≠ email? t row.pk →
    model.canChangeUser requester row = true

variable {model} {requester : ρ} {row : UserRow β} {data : Dict β}

/-- What is left of a payload: all but the fields taken out, or a payload without an e-mail. -/
def Left (data left : Dict β) : Option (List String) → Prop
  | some dropped => left = data.without dropped ∧ "email" ∉ dropped
  | none => left.get? "email" = none

/-- A serializer that breaks costs the payload its e-mail. -/
theorem left_of_raised (h : model.isValid (some requester) row data = .raised) :
    Left data (model.validateViaGatewaySerializer (some requester) row data) none := by
  show (model.validateViaGatewaySerializer _ row data).get? "email" = none
  rw [validateViaGatewaySerializer, h]
  exact (data.get?_without _ _).trans (if_pos (by decide))

/-- Errors cost the payload the fields they name. -/
theorem left_of_invalid {errors : List String}
    (h : model.isValid (some requester) row data = .invalid errors) :
    Left data (model.validateViaGatewaySerializer (some requester) row data) (sparing errors) := by
  rw [validateViaGatewaySerializer, h]
  by_cases hnon : nonFieldErrors ∈ errors
  · rw [sparing, if_pos (Or.inl hnon)]
    simp only [if_pos hnon]
    rfl
  · simp only [if_neg hnon]
    by_cases hemail : "email" ∈ errors
    · rw [sparing, if_pos (Or.inr hemail)]
      exact (data.get?_without _ _).trans (if_pos hemail)
    · rw [sparing, if_neg (not_or.mpr ⟨hnon, hemail⟩)]
      exact ⟨rfl, hemail⟩

/-- A valid payload is left as it is. -/
theorem left_of_valid {validated : Dict β}
    (h : model.isValid (some requester) row data = .valid validated) :
    Left data (model.validateViaGatewaySerializer (some requester) row data) (some []) := by
  refine ⟨?_, List.not_mem_nil⟩
  rw [validateViaGatewaySerializer, h]
  exact data.without_nil.symm

/-- For a requester who may not change the user, a payload keeps its e-mail when it is not
checked. -/
theorem left_unchecked (data : Dict β) (hno : model.canChangeUser requester row = false) :
    Left data (model.validateViaGatewaySerializer (some requester) row data)
      (model.unchecked (some requester) row data) := by
  -- the stages, one after the other
  rw [unchecked]
  cases hfields : model.validateFields (some requester) row data with
  | raised => exact left_of_raised (by rw [isValid, hfields]; rfl)
  | invalid errors => exact left_of_invalid (by rw [isValid, hfields]; rfl)
  | valid cleaned =>
      have hvalid : model.isValid (some requester) row data =
          model.validate (some requester) row cleaned := by rw [isValid, hfields]; rfl
      simp only
      cases hcommon : model.commonValidate (some requester) row cleaned with
      | raised => exact left_of_raised (by rw [hvalid, validate, hcommon]; rfl)
      | invalid errors => exact left_of_invalid (by rw [hvalid, validate, hcommon]; rfl)
      | valid data' =>
          simp only
          by_cases hsame : data'.get? "email" = none ∨ data'.get? "email" = row.attr "email"
          · have hemail : model.validateEmailChange (some requester) row data' = .valid data' := by
              rw [validateEmailChange]
              split
              · rfl
              · rename_i email hget
                rw [hget] at hsame
                rw [if_pos (hsame.resolve_left (by simp)).symm]
            have hrest : model.isValid (some requester) row data =
                model.validateAuthenticators row data' := by
              rw [hvalid, validate, hcommon, Stage.andThen, hemail]
              rfl
            rw [if_pos hsame]
            cases hauth : model.validateAuthenticators row data' with
            | raised => exact left_of_raised (hrest.trans hauth)
            | invalid errors => exact left_of_invalid (hrest.trans hauth)
            | valid validated => exact left_of_valid (hrest.trans hauth)
          · -- the check is reached with a new e-mail, and names the e-mail in its error
            have hemail : model.validateEmailChange (some requester) row data' =
                .invalid ["email"] := by
              rw [not_or] at hsame
              obtain ⟨email, hget⟩ := Option.ne_none_iff_exists'.mp hsame.1
              have hne : row.attr "email" ≠ some email := fun h => hsame.2 (hget.trans h.symm)
              simp only [validateEmailChange, hget, if_neg hne, hno]
              rfl
            rw [if_neg hsame]
            have hsparing : sparing ["email"] = none := by decide
            rw [← hsparing]
            refine left_of_invalid ?_
            rw [hvalid, validate, hcommon, Stage.andThen, hemail]
            rfl

/-! ## Saving what is left -/

/-- What is left holds a new e-mail when the payload does and the e-mail was not checked. -/
theorem newEmail_left_iff (data : Dict β) (hno : model.canChangeUser requester row = false) :
    NewEmail row (model.validateViaGatewaySerializer (some requester) row data) ↔
      (∃ dropped, model.unchecked (some requester) row data = some dropped) ∧
      NewEmail row data := by
  have hleft := left_unchecked data hno
  cases hunchecked : model.unchecked (some requester) row data with
  | none =>
      rw [hunchecked] at hleft
      constructor
      · rintro ⟨email, hemail, -⟩
        exact absurd (hleft.symm.trans hemail) (by simp)
      · rintro ⟨⟨dropped, hdropped⟩, -⟩
        cases hdropped
  | some dropped =>
      rw [hunchecked] at hleft
      have hget := data.get?_without dropped "email"
      rw [if_neg hleft.2] at hget
      rw [NewEmail, hleft.1, hget]
      exact ⟨fun h => ⟨⟨dropped, rfl⟩, h⟩, fun h => h.2⟩

/-- A new e-mail is among the items that differ. -/
theorem mem_filter_differs {email : β} (hget : data.get? "email" = some email)
    (hne : row.attr "email" ≠ some email) : ("email", email) ∈ data.items.filter (differs row) :=
  List.mem_filter.mpr ⟨data.get?_eq_some.mp hget, decide_eq_true hne⟩

/-- Without a new e-mail none of the items that differ is one. -/
theorem not_mem_filter_differs (h : ¬NewEmail row data) :
    "email" ∉ (data.items.filter (differs row)).map Prod.fst := by
  intro hmem
  obtain ⟨⟨key, email⟩, hitem, rfl⟩ := List.mem_map.mp hmem
  obtain ⟨hitem, hdiffers⟩ := List.mem_filter.mp hitem
  exact h ⟨email, data.get?_eq_some.mpr hitem, of_decide_eq_true hdiffers⟩

/-- An update of an existing resource changes the e-mail when the payload bypasses the check. -/
theorem saveExisting_email?_ne_iff {t : UserTable β} {pk : ℕ} (hrow : t.get? row.pk = some row)
    (hno : model.canChangeUser requester row = false) :
    email? (model.saveExisting t (some requester) row data) row.pk ≠ row.attr "email" ↔
      model.Bypasses t (some requester) row (.existing pk) data := by
  have hsame := email?_of_get? hrow
  have hnew := newEmail_left_iff data hno
  have hleft := left_unchecked data hno
  rw [saveExisting]
  generalize model.validateViaGatewaySerializer (some requester) row data = left at hleft hnew
  by_cases hemail : NewEmail row left
  · obtain ⟨⟨dropped, hdropped⟩, hdata⟩ := hnew.mp hemail
    obtain ⟨email, hget, hne⟩ := hemail
    have hmem := mem_filter_differs hget hne
    -- The check leaves an e-mail only where the policy drops none: these are the fields left.
    rw [hdropped] at hleft
    obtain ⟨rfl, -⟩ := hleft
    have hnonempty : ((data.without dropped).items.filter (differs row)).isEmpty = false := by
      cases hitems : (data.without dropped).items.filter (differs row) with
      | nil => exact absurd (hitems ▸ hmem) List.not_mem_nil
      | cons item items => rfl
    -- That the e-mail gets past the check is known here, so that only the save decides.
    have hbypass : model.Bypasses t (some requester) row (.existing pk) data ↔
        model.Saves t (some requester) row (.existing pk) (data.without dropped).items := by
      constructor
      · rintro ⟨dropped', hdropped', -, hsaves⟩
        obtain rfl := Option.some.inj (hdropped.symm.trans hdropped')
        exact hsaves
      · exact fun hsaves => ⟨dropped, hdropped, hdata, hsaves⟩
    simp only [hnonempty, Bool.false_eq_true, if_false]
    rw [hbypass, Saves]
    split
    · rename_i hall
      rw [Bool.and_eq_true, List.all_eq_true, Bool.not_eq_true'] at hall
      have hnodup : (((data.without dropped).items.filter (differs row)).map Prod.fst).Nodup :=
        (data.without dropped).nodup.sublist (List.filter_sublist.map _)
      rw [email?_stored_of_mem hnodup hmem]
      exact ⟨fun _ => hall, fun _ h => hne h.symm⟩
    -- A save that is refused leaves the row, and with it the e-mail.
    · rename_i hall
      refine ⟨fun h => absurd hsame h, fun hsaves => absurd ?_ hall⟩
      rw [Bool.and_eq_true, List.all_eq_true, Bool.not_eq_true']
      exact hsaves
  · -- nothing that is stored is an e-mail
    have hitems := not_mem_filter_differs hemail
    constructor
    · intro h
      refine absurd ?_ h
      split
      · exact hsame
      · split
        · exact email?_stored_of_not_mem hitems
        · exact hsame
    · rintro ⟨dropped, hdropped, hdata, -⟩
      exact absurd (hnew.mpr ⟨⟨dropped, hdropped⟩, hdata⟩) hemail

omit [DecidableEq β] in
/-- The e-mail on record after a save of all columns. -/
theorem email?_saveAll {t : UserTable β} (hrow : t.get? row.pk = some row)
    (items : List (String × β)) :
    email? (t.put { model.saved row (setAll row items) with pk := model.pkOf (setAll row items) })
        row.pk =
      if model.pkOf (setAll row items) = row.pk then (setAll row items).attr "email"
      else row.attr "email" := by
  split_ifs with hpk
  · rw [hpk]
    exact email?_stored t items
  · -- another row is written
    have hget := Table.find?_upsert UserRow.pk
      { model.saved row (setAll row items) with pk := model.pkOf (setAll row items) } t.rows row.pk
    rw [if_neg fun h => hpk h.symm] at hget
    have hkept : (t.put { model.saved row (setAll row items) with
        pk := model.pkOf (setAll row items) }).get? row.pk = some row := hget.trans hrow
    rw [email?, hkept]
    rfl

/-- Storing what is left of a payload that resolved to an existing user changes the e-mail when the
payload bypasses the check. -/
theorem saveNew_email?_ne_iff {t : UserTable β} {newPk : ℕ} {payload : Dict β}
    (hrow : t.get? row.pk = some row) (hexisting : model.existing? t payload = some row)
    (hno : model.canChangeUser requester row = false) :
    email? (model.saveNew t (some requester) newPk payload) row.pk ≠ row.attr "email" ↔
      model.Bypasses t (some requester) row (.new newPk) (payload.without model.lookupKeys) := by
  have hsame := email?_of_get? hrow
  have hnew := newEmail_left_iff (payload.without model.lookupKeys) hno
  have hleft := left_unchecked (payload.without model.lookupKeys) hno
  rw [saveNew, hexisting]
  dsimp only
  generalize model.validateViaGatewaySerializer (some requester) row
    (payload.without model.lookupKeys) = left at hnew hleft
  by_cases hemail : NewEmail row left
  · obtain ⟨⟨dropped, hdropped⟩, hdata⟩ := hnew.mp hemail
    obtain ⟨email, hget, hne⟩ := hemail
    rw [hdropped] at hleft
    obtain ⟨rfl, -⟩ := hleft
    set left := (payload.without model.lookupKeys).without dropped
    have hmem : ("email", email) ∈ left.items := left.get?_eq_some.mp hget
    have hany : left.items.any (differs row) = true :=
      List.any_eq_true.mpr ⟨_, hmem, decide_eq_true hne⟩
    -- As for a changed user, only the save decides.
    have hbypass : model.Bypasses t (some requester) row (.new newPk)
        (payload.without model.lookupKeys) ↔
          model.Saves t (some requester) row (.new newPk) left.items := by
      constructor
      · rintro ⟨dropped', hdropped', -, hsaves⟩
        obtain rfl := Option.some.inj (hdropped.symm.trans hdropped')
        exact hsaves
      · exact fun hsaves => ⟨dropped, hdropped, hdata, hsaves⟩
    rw [hbypass, Saves, hany, Bool.true_and]
    cases model.refuses t (some requester) row none left.items with
    | true => simp [hsame]
    | false =>
        simp only [Bool.not_false, if_true, true_and]
        rw [email?_saveAll hrow, setAll_attr_of_mem row left.nodup hmem]
        -- The object is saved to the row of its own pk, which the fields may have set.
        split_ifs with hpk
        · exact iff_of_true (fun h => hne h.symm) hpk
        · exact iff_of_false (fun h => h rfl) hpk
  · -- the e-mail of the object is the one on record
    have hattr : (setAll row left.items).attr "email" = row.attr "email" := by
      cases hget : left.get? "email" with
      | none => exact setAll_attr_of_not_mem row (left.get?_eq_none.mp hget)
      | some email =>
          rw [setAll_attr_of_mem row left.nodup (left.get?_eq_some.mp hget)]
          by_contra hne
          exact hemail ⟨email, hget, fun h => hne h.symm⟩
    constructor
    · intro h
      refine absurd ?_ h
      split
      · rw [email?_saveAll hrow, hattr, ite_self]
      · exact hsame
    · rintro ⟨dropped, hdropped, hdata, -⟩
      exact absurd (hnew.mpr ⟨⟨dropped, hdropped⟩, hdata⟩) hemail

end UserModel

/-- For every payload that resolves to an existing user, the stored e-mail changes only for a
requester who may change the user, exactly when the requester may or the payload does not bypass
the check. -/
theorem emailChangesOnlyIfAllowed_iff [DecidableEq β] (model : UserModel β ρ) (t : UserTable β)
    (requester : ρ) (target : UserModel.Target) (data : Dict β) (row : UserRow β)
    (hresolves : model.resolves? t target data = some row) :
    model.EmailChangesOnlyIfAllowed t requester row target data ↔
      (model.canChangeUser requester row = true ∨
        ¬model.Bypasses t (some requester) row target (model.stored target data)) := by
  by_cases hcan : model.canChangeUser requester row = true
  · exact ⟨fun _ => Or.inl hcan, fun _ _ => hcan⟩
  · have hno : model.canChangeUser requester row = false := Bool.not_eq_true _ ▸ hcan
    -- The two ways of a save differ in the row that is written.
    have hchanges : UserModel.email? (model.save t (some requester) target data) row.pk ≠
        UserModel.email? t row.pk ↔
        model.Bypasses t (some requester) row target (model.stored target data) := by
      cases target with
      | new newPk =>
          have hmem := Table.mem_of_firstByKey_eq_some hresolves
          have hrow : t.get? row.pk = some row :=
            Table.find?_of_mem t.pk_nodup (List.mem_filter.mp hmem).1
          rw [UserModel.email?_of_get? hrow]
          exact UserModel.saveNew_email?_ne_iff hrow hresolves hno
      | existing pk =>
          have hget : t.get? pk = some row := hresolves
          have hpk := List.find?_some hget
          have hrow : t.get? row.pk = some row := by rw [of_decide_eq_true hpk, hget]
          rw [UserModel.email?_of_get? hrow, UserModel.save, hget]
          exact UserModel.saveExisting_email?_ne_iff hrow hno
    rw [UserModel.EmailChangesOnlyIfAllowed, hchanges]
    constructor
    · intro h
      exact Or.inr fun hbypass => hcan (h hbypass)
    · rintro (h | h) hbypass
      · exact h
      · exact absurd hbypass h

/-! ## Blanks around the e-mail -/

/-- The e-mail without the blanks around it, as its field cleans it. -/
def strippedEmail (data : Dict String) : Dict String where
  items := data.items.map fun item =>
    if item.1 = "email" then (item.1, Text.strip item.2) else item
  nodup := by
    have hkeys : (data.items.map fun item =>
        if item.1 = "email" then (item.1, Text.strip item.2) else item).map Prod.fst =
          data.items.map Prod.fst := by
      rw [List.map_map]
      refine List.map_congr_left fun item _ => ?_
      dsimp only [Function.comp]
      split_ifs <;> rfl
    rw [hkeys]
    exact data.nodup

/-- A gateway whose usernames are unique. The field of the e-mail takes the blanks away, and whether
the requester may change it is asked for the first time there. -/
def strippingGateway : UserModel String String where
  isColumn key := key ∈ ["username", "email", "first_name", "last_name", "is_superuser"]
  isColumn_email := by decide
  lookupKeys := ["username"]
  pkOf := UserRow.pk
  refuses t _ row _ items := t.rows.any fun other => other.pk ≠ row.pk &&
    items.any fun item => item.1 = "username" && other.attr "username" = some item.2
  validateFields requester row data :=
    let data := strippedEmail data
    if data.get? "email" = none || data.get? "email" = row.attr "email" ||
        requester = some "admin_user" then .valid data
    else .invalid ["email"]
  commonValidate _ _ data := .valid data
  validateAuthenticators _ data := .valid data
  canChangeUser requester _ := requester = "admin_user"

/-- The user to be changed. -/
def targetUser : UserRow String where
  pk := 1
  managed := false
  attr
    | "username" => some "target_user"
    | "email" => some "original@example.com"
    | "first_name" => some ""
    | _ => none

/-- The table of that user. -/
def targetOnly : UserTable String where
  rows := [targetUser]
  pk_nodup := by decide

/-- A new e-mail with a new first name. -/
def newFirstName : Dict String where
  items := [("email", "hijacked@example.com"), ("first_name", "Updated")]
  nodup := by decide

/-- The e-mail on record with blanks around it. -/
def blanksAround : Dict String where
  items := [("email", " original@example.com ")]
  nodup := by decide

/-- A new e-mail of a requester who may not change the user is taken out. -/
theorem emailChangesOnlyIfAllowed_newFirstName :
    UserModel.email? (strippingGateway.save targetOnly (some "regular_user") (.existing 1)
      newFirstName) 1 = some "original@example.com" ∧
    strippingGateway.EmailChangesOnlyIfAllowed targetOnly "regular_user" targetUser (.existing 1)
      newFirstName := by
  refine ⟨by decide +kernel, ?_⟩
  refine (emailChangesOnlyIfAllowed_iff strippingGateway targetOnly "regular_user" (.existing 1)
    newFirstName targetUser rfl).mpr (Or.inr ?_)
  rintro ⟨dropped, hdropped, -⟩
  have hchecked : strippingGateway.unchecked (some "regular_user") targetUser newFirstName =
      none := by
    decide +kernel
  exact absurd (hchecked.symm.trans hdropped) (by simp)

/-- The e-mail on record with blanks around it is the same e-mail to the checks, and is stored with
the blanks. -/
theorem not_emailChangesOnlyIfAllowed_blanks :
    strippingGateway.resolves? targetOnly (.existing 1) blanksAround = some targetUser ∧
    UserModel.email? (strippingGateway.save targetOnly (some "regular_user") (.existing 1)
      blanksAround) 1 = some " original@example.com " ∧
    ¬strippingGateway.EmailChangesOnlyIfAllowed targetOnly "regular_user" targetUser (.existing 1)
      blanksAround := by
  refine ⟨rfl, by decide +kernel, fun h => ?_⟩
  have hchanged : UserModel.email? (strippingGateway.save targetOnly (some "regular_user")
      (.existing 1) blanksAround) targetUser.pk ≠ UserModel.email? targetOnly targetUser.pk := by
    decide +kernel
  exact absurd (h hchanged) (by decide)

end AapGateway.Users
