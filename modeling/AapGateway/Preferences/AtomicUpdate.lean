import AapGateway.Foundations.LastWrite
import AapGateway.Preferences.Corruption

/-!
# Changes of settings that are broken off

`validate_and_save` validates the whole `dict` before it saves anything. The values are then saved
one by one, outside of a transaction, and after each of them the `on_update` hook of its preference
is called, which may store values of other preferences. Any of these steps may raise, and what was
written before it stays.

## Main definitions

* `SaveEnvironment`: the environment of a change, with the hooks of the preferences;
* `Faults`: the steps that raise;
* `SaveEnvironment.validateAndSave`: the change, with its hooks and with steps that raise;
* `SaveEnvironment.Atomic`: a change that raises leaves the stored values of the category;
* `SaveEnvironment.ChangesNothing`: no text that is to be written is of another value.

## Main results

* `SaveEnvironment.validateAndSave_of_silent`: where nothing raises and no hook stores anything, the
  change is that of `Environment.validateAndSave`;
* `SaveEnvironment.atomic_iff`: a change is atomic, whichever step raises, exactly if it is refused
  or changes nothing.
-/

namespace AapGateway.Preferences

/-- A text that is written to the row of a preference. -/
abbrev Write := Preference × String

/-- The steps that raise while values are saved. -/
structure Faults where
  /-- The database does not take the text for the row. -/
  refusesRow : Preference → String → Bool
  /-- What runs after the row is written raises, when its hook has stored so many texts. -/
  breaksOff : Preference → Option Nat

/-- Nothing raises. -/
def Faults.none : Faults where
  refusesRow _ _ := false
  breaksOff _ := .none

/-- What a hook does: the texts that it stores, in their order, and whether it returns. -/
structure HookRun where
  stored : List Write
  returns : Bool

/-- What the settings are changed with, and the hooks. -/
structure SaveEnvironment extends Environment where
  /-- `on_update(old_value, new_value)` of a preference that has one. It is called at most once in a
  change, and whenever it is called the same values have been saved before, so that what it reads
  itself need not be an argument. -/
  onUpdate : Preference → Option (Json → Json → HookRun)

namespace Manager

variable (m : Manager)

/-- The cell of a preference after a text is written: the cache is filled after the row. -/
def cellOf (w : Write) : Cell :=
  { raw_value := some w.2, cached := some (m.toCache w.1 (some w.2)) }

/-- The store after a text is written. -/
def write (st : Store) (w : Write) : Store :=
  Function.update st w.1.key (m.cellOf w)

/-- The key that a text is written to. -/
def writeKeys (w : Write) : List (String × String) := [w.1.key]

/-- The text that is written for a value. `Preference.save` encrypts it if the preference is
encrypted. -/
def textFor (p : Preference) (value : Json) : Option String := do
  let raw_value ← p.serializer.toDb value
  if p.encrypted then do
    let value ← p.serializer.toPython (some raw_value)
    p.serializer.toDb (.str (m.encryption.encryptString value))
  else some raw_value

/-- The preferences of a category have the stored values that they had. -/
def KeepsValues (r : Registry) (category_slug : Option String) (st st' : Store) : Prop :=
  ∀ p ∈ r.category category_slug, m.rowValue p (st' p.key) = m.rowValue p (st p.key)

/-- A text is of the value that the row of its preference has, if that is of the category. -/
def Rewrites (r : Registry) (category_slug : Option String) (st : Store) (w : Write) : Prop :=
  ∀ p ∈ r.category category_slug, p.key = w.1.key →
    m.rowValue p (m.cellOf w) = m.rowValue p (st p.key)

variable {m} {p : Preference} {value : Json} {c c' : Cell} {r : Registry} {slug : Option String}
  {st st' st'' : Store} {w : Write} {ws : List Write}

/-- What `update_db_pref` makes of a cell is a cell that a text was written to. -/
theorem updateDbPref_eq : m.updateDbPref p value c =
    (m.fromDb p c.raw_value).bind fun _ =>
      (m.textFor p value).map fun text => m.cellOf (p, text) := by
  unfold updateDbPref textFor cellOf
  cases m.fromDb p c.raw_value with
  | none => rfl
  | some loaded =>
      cases p.serializer.toDb value with
      | none => rfl
      | some raw_value =>
          -- Only an encrypted value is serialized a second time.
          by_cases hencrypted : p.encrypted = true
          · simp [hencrypted, Option.map_eq_bind, Option.bind_assoc]
          · simp [hencrypted]

/-- The text of an unencrypted preference is what its serializer makes of the value. -/
theorem textFor_of_unencrypted (h : p.encrypted = false) :
    m.textFor p value = p.serializer.toDb value := by
  unfold textFor
  rw [h]
  cases p.serializer.toDb value <;> rfl

/-- The value of a row depends on its text alone. -/
theorem rowValue_congr (h : c'.raw_value = c.raw_value) : m.rowValue p c' = m.rowValue p c := by
  unfold rowValue
  rw [h]

/-- A text is written to the cell of its preference. -/
theorem writes_write : LastWrite.Writes (fun st : Store => st) m.write writeKeys m.cellOf := by
  intro st w key
  by_cases hkey : key = w.1.key
  · simp [write, writeKeys, hkey]
  · simp [write, writeKeys, hkey]

/-- Reads keep the values. -/
theorem Touched.keepsValues (h : m.Touched r st st') : m.KeepsValues r slug st st' :=
  fun _ hp => rowValue_congr (h.raw_value (r.mem_of_mem_category hp))

theorem KeepsValues.trans (h : m.KeepsValues r slug st st') (h' : m.KeepsValues r slug st' st'') :
    m.KeepsValues r slug st st'' :=
  fun p hp => (h' p hp).trans (h p hp)

/-- A store with the values from before still has them after a text is written exactly if the text
is of the value from before. -/
theorem keepsValues_write_iff (h : m.KeepsValues r slug st st') :
    m.KeepsValues r slug st (m.write st' w) ↔ m.Rewrites r slug st w := by
  constructor
  · intro hkept p hp hkey
    have hvalue := hkept p hp
    rwa [write, hkey, Function.update_self, ← hkey] at hvalue
  · intro hsame p hp
    unfold write
    -- The other rows are those of the store.
    by_cases hkey : p.key = w.1.key
    · rw [← hsame p hp hkey, hkey, Function.update_self]
    · rw [Function.update_of_ne hkey]
      exact h p hp

/-- Texts of the values from before keep the values. -/
theorem KeepsValues.writes (h : m.KeepsValues r slug st st')
    (hws : ∀ w ∈ ws, m.Rewrites r slug st w) :
    m.KeepsValues r slug st (ws.foldl m.write st') := by
  induction ws generalizing st' with
  | nil => exact h
  | cons w ws ih =>
      obtain ⟨hw, hws⟩ := List.forall_mem_cons.mp hws
      exact ih ((keepsValues_write_iff h).mpr hw) hws

/-- Texts after each of which the values are kept are of the values from before. -/
theorem rewrites_of_keepsValues (h : m.KeepsValues r slug st st')
    (hws : ∀ n, m.KeepsValues r slug st ((ws.take (n + 1)).foldl m.write st')) :
    ∀ w ∈ ws, m.Rewrites r slug st w := by
  intro w hw
  obtain ⟨n, hn, rfl⟩ := List.getElem_of_mem hw
  -- The values are kept by the texts before this one, and with it.
  have hbefore : m.KeepsValues r slug st ((ws.take n).foldl m.write st') := by
    cases n with
    | zero => exact h
    | succ n => exact hws n
  have hkept := hws n
  rw [List.take_add_one, List.getElem?_eq_getElem hn, List.foldl_append] at hkept
  exact (keepsValues_write_iff hbefore).mp hkept

end Manager

/-- The change raises. -/
def Outcome.raises : Outcome → Bool
  | .saved (some _) => false
  | _ => true

/-- `validate_and_save` up to the first save: what it raises, or the values to save. -/
def Environment.validate (env : Environment) (r : Registry) (category_slug : Option String)
    (data : List (String × Json)) (st : Store) : Except Outcome (List Save) × Store :=
  let category := r.category category_slug
  match env.processFields data category st with
  | (none, st) => (.error .raised, st)
  | (some (errors, values_to_save), st) =>
    let additional_keys :=
      (data.map Prod.fst).filter fun key => !(category.map Preference.name).contains key
    let errors := errors ++ additional_keys.map fun key => (key, .invalidKey)
    if !errors.isEmpty then (.error (.refused errors), st)
    else
      match env.cleanTextErrors category values_to_save st with
      | (none, st) => (.error .raised, st)
      | (some true, st) => (.error .unclean, st)
      | (some false, st) => (.ok values_to_save, st)

/-- The `dict` is not refused. -/
def Environment.accepts (env : Environment) (r : Registry) (category_slug : Option String)
    (data : List (String × Json)) (st : Store) : Bool :=
  match (env.validate r category_slug data st).1 with
  | .error _ => false
  | .ok _ => true

/-- The values of a `dict` that are to be saved. -/
def Environment.changes (env : Environment) (r : Registry) (category_slug : Option String)
    (data : List (String × Json)) (st : Store) : List Save :=
  (r.category category_slug).filterMap (env.pending data st)

namespace Environment

variable {env : Environment} {r : Registry} {slug : Option String} {data : List (String × Json)}
  {st st' : Store} {saves : List Save} {outcome : Outcome}

/-- `validate_and_save` saves what is left after the validation. -/
theorem validateAndSave_eq : env.validateAndSave r slug data st =
    match env.validate r slug data st with
    | (.error outcome, st) => (outcome, st)
    | (.ok values_to_save, st) =>
      match env.saveAll values_to_save st with
      | (false, st) => (.raised, st)
      | (true, st) =>
        let (return_data, st) := env.manager.toRepresentation (r.category slug) st
        (.saved return_data, st) := by
  unfold validateAndSave validate
  dsimp only
  -- The branches of the two are the same.
  cases env.processFields data (r.category slug) st with
  | mk fields st₁ =>
      cases fields with
      | none => rfl
      | some fields =>
          dsimp only
          split
          · rfl
          · cases env.cleanTextErrors (r.category slug) fields.2 st₁ with
            | mk unclean st₂ =>
                cases unclean with
                | none => rfl
                | some unclean => cases unclean <;> rfl

/-- The validation only reads the store. -/
theorem touched_validate : env.manager.Touched r st (env.validate r slug data st).2 := by
  have hps : ∀ p ∈ r.category slug, p ∈ r.preferences := fun p hp => r.mem_of_mem_category hp
  have htouched : env.manager.Touched r st (env.processFields data (r.category slug) st).2 :=
    touched_processFields hps
  unfold validate
  dsimp only
  cases hprocess : env.processFields data (r.category slug) st with
  | mk fields st₁ =>
      rw [hprocess] at htouched
      cases fields with
      | none => exact htouched
      | some fields =>
          have hclean : env.manager.Touched r st₁
              (env.cleanTextErrors (r.category slug) fields.2 st₁).2 :=
            touched_cleanTextErrors hps fields.2
          dsimp only
          split
          · exact htouched
          · split <;> rename_i heq <;> rw [heq] at hclean <;> exact htouched.trans hclean

/-- What it leaves are the values that are to be saved. -/
theorem eq_changes_of_validate (h : env.validate r slug data st = (.ok saves, st')) :
    saves = env.changes r slug data st := by
  unfold validate at h
  dsimp only at h
  split at h
  · cases h
  · rename_i errors values_to_save st₁ hprocess
    split at h
    · cases h
    · split at h
      · cases h
      · cases h
      · cases h
        exact (processFields_eq (r.nodup_category_keys slug) hprocess).2.2

/-- What passes the validation has no errors, and every key of it is the name of a preference. -/
theorem of_validate_ok (h : env.validate r slug data st = (.ok saves, st')) :
    (∀ p ∈ r.category slug, (env.manager.getPreferenceValue p st).1.isSome = true) ∧
      (∀ p ∈ r.category slug, ∀ err, env.fate data st p ≠ some (.error err)) ∧
      ∀ kv ∈ data, ∃ p ∈ r.category slug, p.name = kv.1 := by
  unfold validate at h
  dsimp only at h
  split at h
  · cases h
  · rename_i errors values_to_save st₁ hprocess
    obtain ⟨hreads, rfl, -⟩ := processFields_eq (r.nodup_category_keys slug) hprocess
    split at h
    · cases h
    · rename_i hnone
      rw [Bool.not_eq_true', Bool.not_eq_false, List.isEmpty_iff] at hnone
      exact ⟨hreads, of_errors_eq_nil hnone⟩

/-- What does not pass the validation is not saved. -/
theorem ne_saved_of_validate (h : env.validate r slug data st = (.error outcome, st'))
    (return_data : Option (List (String × Json))) : outcome ≠ .saved return_data := by
  rintro rfl
  unfold validate at h
  dsimp only at h
  split at h
  · cases h
  · split at h
    · cases h
    · split at h <;> cases h

/-- The values to save are for preferences of the category. -/
theorem mem_category_of_changes :
    ∀ save ∈ env.changes r slug data st, save.preference ∈ r.category slug := by
  intro save hsave
  obtain ⟨p, hp, hpending⟩ := List.mem_filterMap.mp hsave
  rwa [preference_of_fate (pending_eq_some_iff.mp hpending)]

end Environment

namespace SaveEnvironment

variable (env : SaveEnvironment)

/-- What the hook of a preference does, if there is one. -/
def hookRun (p : Preference) (old_value new_value : Json) : HookRun :=
  match env.onUpdate p with
  | none => { stored := [], returns := true }
  | some on_update => on_update old_value new_value

/-- `_notify_on_preference_update`. It is `false` where it raises. -/
def notifyOnPreferenceUpdate (faults : Faults) (p : Preference) (old_value new_value : Json)
    (st : Store) : Bool × Store :=
  let run := env.hookRun p old_value new_value
  match faults.breaksOff p with
  | none => (run.returns, run.stored.foldl env.manager.write st)
  | some n => (false, (run.stored.take n).foldl env.manager.write st)

/-- `update_preference_value` without validation: the row is loaded and written, and what listens to
the update is notified. -/
def updatePreferenceValue (faults : Faults) (save : Save) (st : Store) : Bool × Store :=
  let p := save.preference
  match env.manager.rowValue p (st p.key), env.manager.textFor p save.value with
  | some old_value, some text =>
    if faults.refusesRow p text then (false, st)
    else
      env.notifyOnPreferenceUpdate faults p old_value save.value (env.manager.write st (p, text))
  | _, _ => (false, st)

/-- The values are saved one after the other. The first that raises ends it. -/
def saveAll (faults : Faults) : List Save → Store → Bool × Store
  | [], st => (true, st)
  | save :: saves, st =>
    match env.updatePreferenceValue faults save st with
    | (false, st) => (false, st)
    | (true, st) => saveAll faults saves st

/-- `validate_and_save`. -/
def validateAndSave (faults : Faults) (r : Registry) (category_slug : Option String)
    (data : List (String × Json)) (st : Store) : Outcome × Store :=
  match env.validate r category_slug data st with
  | (.error outcome, st) => (outcome, st)
  | (.ok values_to_save, st) =>
    match env.saveAll faults values_to_save st with
    | (false, st) => (.raised, st)
    | (true, st) =>
      let (return_data, st) := env.manager.toRepresentation (r.category category_slug) st
      (.saved return_data, st)

/-- A change that raises leaves the stored values of the category as they were. -/
def Atomic (faults : Faults) (r : Registry) (category_slug : Option String)
    (data : List (String × Json)) (st : Store) : Prop :=
  (env.validateAndSave faults r category_slug data st).1.raises = true →
    env.manager.KeepsValues r category_slug st
      (env.validateAndSave faults r category_slug data st).2

/-- What is written for a value and then by the hook of its preference, and whether the next value
is saved after that. Nothing is written where the row cannot be loaded or the value has no text. -/
def writesFor (st : Store) (save : Save) : List Write × Bool :=
  let p := save.preference
  match env.manager.rowValue p (st p.key), env.manager.textFor p save.value with
  | some old_value, some text =>
    let run := env.hookRun p old_value save.value
    ((p, text) :: run.stored, run.returns)
  | _, _ => ([], false)

/-- What is written for values, up to the first after which no other is saved. -/
def writesForAll (st : Store) : List Save → List Write
  | [] => []
  | save :: saves =>
    let (writes, goesOn) := env.writesFor st save
    writes ++ if goesOn then writesForAll st saves else []

/-- The texts that hooks store for the row of a preference while values are saved, up to the last
save of its own. -/
def hookWrites (p : Preference) (st : Store) : List Save → List Write
  | [] => []
  | save :: saves =>
    let writes := (env.writesFor st save).1
    let later := hookWrites p (writes.foldl env.manager.write st) saves
    -- A value of its own that is saved later takes the place of what is stored here.
    if saves.any fun save => save.preference.key = p.key then later
    else LastWrite.writesTo Manager.writeKeys p.key writes.tail ++ later

/-- No text that is to be written is of another value than the row has. -/
def ChangesNothing (r : Registry) (category_slug : Option String) (data : List (String × Json))
    (st : Store) : Prop :=
  ∀ w ∈ env.writesForAll st (env.changes r category_slug data st),
    env.manager.Rewrites r category_slug st w

variable {env} {faults faults' : Faults} {r : Registry} {slug : Option String}
  {data : List (String × Json)} {st st' : Store} {save : Save} {saves : List Save}

/-! ## Saving -/

/-- The texts for a value come before those for the values after it. -/
theorem writesForAll_cons : env.writesForAll st (save :: saves) =
    (env.writesFor st save).1 ++
      if (env.writesFor st save).2 = true then env.writesForAll st saves else [] :=
  rfl

/-- A save of a value that is written to a row which has it, with a hook that stores such values
only, keeps the values. The next value is saved after it only if that is so without faults. -/
theorem keepsValues_updatePreferenceValue (faults : Faults)
    (hcategory : save.preference ∈ r.category slug) (h : env.manager.KeepsValues r slug st st')
    (hws : ∀ w ∈ (env.writesFor st save).1, env.manager.Rewrites r slug st w) :
    env.manager.KeepsValues r slug st (env.updatePreferenceValue faults save st').2 ∧
      ((env.updatePreferenceValue faults save st').1 = true →
        (env.writesFor st save).2 = true) := by
  unfold writesFor at hws ⊢
  unfold updatePreferenceValue
  dsimp only at hws ⊢
  -- The row has the value that it had before the change.
  rw [h _ hcategory]
  split
  · rename_i old_value text hvalue htext
    rw [hvalue, htext] at hws
    dsimp only at hws ⊢
    obtain ⟨hrow, hstored⟩ := List.forall_mem_cons.mp hws
    have hwritten := (Manager.keepsValues_write_iff h).mpr hrow
    by_cases hrefused : faults.refusesRow save.preference text = true
    · rw [if_pos hrefused]
      exact ⟨h, fun hfalse => by cases hfalse⟩
    · rw [if_neg hrefused]
      unfold notifyOnPreferenceUpdate
      cases faults.breaksOff save.preference with
      | none => exact ⟨hwritten.writes hstored, id⟩
      | some n =>
          refine ⟨hwritten.writes fun w hw => hstored w (List.mem_of_mem_take hw), ?_⟩
          intro hfalse
          cases hfalse
  · exact ⟨h, fun hfalse => by cases hfalse⟩

/-- If nothing that is written for them is of another value, the saves keep the values, whichever
step raises. -/
theorem keepsValues_saveAll (faults : Faults)
    (hcategory : ∀ save ∈ saves, save.preference ∈ r.category slug)
    (h : env.manager.KeepsValues r slug st st')
    (hws : ∀ w ∈ env.writesForAll st saves, env.manager.Rewrites r slug st w) :
    env.manager.KeepsValues r slug st (env.saveAll faults saves st').2 := by
  induction saves generalizing st' with
  | nil => exact h
  | cons save saves ih =>
      obtain ⟨hsave, hcategory⟩ := List.forall_mem_cons.mp hcategory
      rw [writesForAll_cons] at hws
      obtain ⟨hkept, hgoesOn⟩ := keepsValues_updatePreferenceValue faults hsave h
        fun w hw => hws w (List.mem_append_left _ hw)
      rw [saveAll]
      split
      · rename_i heq
        rwa [heq] at hkept
      · rename_i heq
        rw [heq] at hkept hgoesOn
        refine ih hcategory hkept fun w hw => hws w (List.mem_append_right _ ?_)
        rwa [hgoesOn rfl, if_pos rfl]

/-- The saves depend on what raises at their own preferences. -/
theorem saveAll_congr (faults faults' : Faults)
    (hrow : ∀ save ∈ saves, faults.refusesRow save.preference = faults'.refusesRow save.preference)
    (hhook : ∀ save ∈ saves, faults.breaksOff save.preference = faults'.breaksOff save.preference) :
    env.saveAll faults saves st = env.saveAll faults' saves st := by
  induction saves generalizing st with
  | nil => rfl
  | cons save saves ih =>
      obtain ⟨hrow, hrows⟩ := List.forall_mem_cons.mp hrow
      obtain ⟨hhook, hhooks⟩ := List.forall_mem_cons.mp hhook
      have hsave : env.updatePreferenceValue faults save st =
          env.updatePreferenceValue faults' save st := by
        simp only [updatePreferenceValue, notifyOnPreferenceUpdate, hrow, hhook]
      rw [saveAll, saveAll, hsave]
      split
      · rfl
      · exact ih hrows hhooks

/-- A save that nothing hinders writes what is to be written for its value. -/
theorem updatePreferenceValue_of_passes
    (hvalue : env.manager.rowValue save.preference (st' save.preference.key) =
      env.manager.rowValue save.preference (st save.preference.key))
    (hrow : ∀ text, faults.refusesRow save.preference text = false)
    (hhook : faults.breaksOff save.preference = none) :
    env.updatePreferenceValue faults save st' =
      ((env.writesFor st save).2, (env.writesFor st save).1.foldl env.manager.write st') := by
  unfold updatePreferenceValue writesFor
  dsimp only
  rw [hvalue]
  split
  · rename_i old_value text _ _
    rw [hrow, if_neg Bool.false_ne_true]
    unfold notifyOnPreferenceUpdate
    rw [hhook]
    rfl
  · rfl

/-- A save whose hook is broken off writes a part of that, if anything. -/
theorem updatePreferenceValue_of_breaksOff (faults : Faults) {n : Nat}
    (hwrites : (env.writesFor st save).1 ≠ [])
    (hvalue : env.manager.rowValue save.preference (st' save.preference.key) =
      env.manager.rowValue save.preference (st save.preference.key))
    (hrow : ∀ text, faults.refusesRow save.preference text = false)
    (hhook : faults.breaksOff save.preference = some n) :
    env.updatePreferenceValue faults save st' =
      (false, ((env.writesFor st save).1.take (n + 1)).foldl env.manager.write st') := by
  unfold writesFor at hwrites ⊢
  unfold updatePreferenceValue
  dsimp only at hwrites ⊢
  rw [hvalue]
  split
  · rename_i old_value text _ _
    rw [hrow, if_neg Bool.false_ne_true]
    unfold notifyOnPreferenceUpdate
    rw [hhook]
    rfl
  · rename_i hnone
    split at hwrites
    · rename_i old_value text hold htext
      exact absurd htext (hnone old_value text hold)
    · exact absurd rfl hwrites

/-- If the values are kept whenever the saves raise, nothing that is written for them is of another
value. -/
theorem rewrites_of_saveAll (hkeys : (saves.map (·.preference.key)).Nodup)
    (hcategory : ∀ save ∈ saves, save.preference ∈ r.category slug)
    (h : env.manager.KeepsValues r slug st st')
    (hkept : ∀ faults, (env.saveAll faults saves st').1 = false →
      env.manager.KeepsValues r slug st (env.saveAll faults saves st').2) :
    ∀ w ∈ env.writesForAll st saves, env.manager.Rewrites r slug st w := by
  induction saves generalizing st' with
  | nil => exact fun w hw => by cases hw
  | cons save saves ih =>
      rw [List.map_cons, List.nodup_cons] at hkeys
      obtain ⟨hsave, hcategory⟩ := List.forall_mem_cons.mp hcategory
      have hvalue := h _ hsave
      -- The hook of this value may be broken off after each of its writes.
      have hwrites : ∀ w ∈ (env.writesFor st save).1, env.manager.Rewrites r slug st w := by
        refine Manager.rewrites_of_keepsValues h fun n => ?_
        by_cases hnone : (env.writesFor st save).1 = []
        · rw [hnone]
          exact h
        · have hbroken := updatePreferenceValue_of_breaksOff ⟨fun _ _ => false, fun _ => some n⟩
            hnone hvalue (fun _ => rfl) rfl
          have hkept := hkept ⟨fun _ _ => false, fun _ => some n⟩
          rw [saveAll, hbroken] at hkept
          exact hkept rfl
      rw [writesForAll_cons]
      intro w hw
      rcases List.mem_append.mp hw with hw | hw
      · exact hwrites w hw
      · split at hw
        · rename_i hgoesOn
          -- The steps of the other values raise after all writes for this one.
          refine ih hkeys.2 hcategory (h.writes hwrites) (fun faults => ?_) w hw
          have hother : ∀ s ∈ saves, s.preference.key ≠ save.preference.key := by
            intro s hs hkey
            rw [← hkey] at hkeys
            exact hkeys.1 (List.mem_map_of_mem hs)
          have hkept := hkept
            { refusesRow := fun p text =>
                if p.key = save.preference.key then false else faults.refusesRow p text
              breaksOff := fun p =>
                if p.key = save.preference.key then none else faults.breaksOff p }
          rw [saveAll, updatePreferenceValue_of_passes hvalue (by simp) (by simp), hgoesOn] at hkept
          dsimp only at hkept
          rwa [saveAll_congr _ faults (fun s hs => by simp [hother s hs])
            fun s hs => by simp [hother s hs]] at hkept
        · cases hw

/-! ## What the saves leave -/

/-- What is written for a value depends on the row of its preference. -/
theorem writesFor_congr
    (h : (st' save.preference.key).raw_value = (st save.preference.key).raw_value) :
    env.writesFor st' save = env.writesFor st save := by
  unfold writesFor
  dsimp only
  rw [Manager.rowValue_congr h]

/-- The rows of preferences after the texts for a value, in a store which has the same rows. -/
theorem raw_value_foldl_write {ps : List (String × String)} (ws : List Write)
    (h : ∀ key ∈ ps, (st' key).raw_value = (st key).raw_value) :
    ∀ key ∈ ps, (ws.foldl env.manager.write st' key).raw_value =
      (ws.foldl env.manager.write st key).raw_value := by
  intro key hkey
  rw [LastWrite.read_foldl Manager.writes_write, LastWrite.read_foldl Manager.writes_write]
  cases (LastWrite.writesTo Manager.writeKeys key ws).getLast? with
  | none => exact h key hkey
  | some w => rfl

/-- What hooks store depends on the rows of the preferences whose values are saved. -/
theorem hookWrites_congr (h : ∀ key ∈ saves.map (·.preference.key),
    (st' key).raw_value = (st key).raw_value) (p : Preference) :
    env.hookWrites p st' saves = env.hookWrites p st saves := by
  induction saves generalizing st st' with
  | nil => rfl
  | cons save saves ih =>
      rw [List.map_cons] at h
      obtain ⟨hsave, hsaves⟩ := List.forall_mem_cons.mp h
      rw [hookWrites, hookWrites, writesFor_congr hsave, ih (raw_value_foldl_write _ hsaves)]

/-- A save that completes has written what is to be written for its value. -/
theorem of_updatePreferenceValue (h : env.updatePreferenceValue faults save st = (true, st')) :
    ∃ text stored, env.manager.textFor save.preference save.value = some text ∧
      (env.writesFor st save).1 = (save.preference, text) :: stored ∧
      st' = (env.writesFor st save).1.foldl env.manager.write st := by
  unfold updatePreferenceValue at h
  unfold writesFor
  dsimp only at h ⊢
  split at h
  · rename_i old_value text hvalue htext
    split at h
    · cases h
    · unfold notifyOnPreferenceUpdate at h
      dsimp only at h
      split at h
      · obtain ⟨-, rfl⟩ := Prod.mk.inj h
        exact ⟨text, _, htext, rfl, rfl⟩
      · cases h
  · cases h

/-- What the saves of values leave in the cell of a preference. -/
inductive Left (env : SaveEnvironment) (st : Store) (saves : List Save) (p : Preference)
    (c : Cell) : Prop
  /-- A hook has stored a text for it, after its own value was saved if there is one. -/
  | hook (w : Write) (hlast : (env.hookWrites p st saves).getLast? = some w)
      (hc : c = env.manager.cellOf w)
  /-- Its own value was saved. -/
  | own (save : Save) (text : String) (hnone : env.hookWrites p st saves = [])
      (hsave : save ∈ saves) (hkey : save.preference.key = p.key)
      (htext : env.manager.textFor save.preference save.value = some text)
      (hc : c = env.manager.cellOf (save.preference, text))
  /-- Nothing was written. -/
  | kept (hnone : env.hookWrites p st saves = [])
      (hsaves : ∀ save ∈ saves, save.preference.key ≠ p.key) (hc : c = st p.key)

/-- The saves leave in a cell the last text that is written for it. -/
theorem left_of_saveAll (h : env.saveAll faults saves st = (true, st')) (p : Preference) :
    Left env st saves p (st' p.key) := by
  induction saves generalizing st with
  | nil =>
      cases h
      exact .kept rfl (by simp) rfl
  | cons save saves ih =>
      rw [saveAll] at h
      split at h
      · cases h
      · rename_i st₁ hsave
        obtain ⟨text, stored, htext, hwrites, rfl⟩ := of_updatePreferenceValue hsave
        have hcell := LastWrite.read_foldl (Manager.writes_write (m := env.manager))
          (env.writesFor st save).1 st p.key
        cases ih h with
        | hook w hlast hc =>
            refine .hook w ?_ hc
            rw [hookWrites]
            split
            · exact hlast
            · rw [List.getLast?_append, hlast]
              rfl
        | own own ownText hnone hmem hkey hown hc =>
            refine .own own ownText ?_ (List.mem_cons_of_mem _ hmem) hkey hown hc
            rw [hookWrites, if_pos (List.any_eq_true.mpr ⟨own, hmem, decide_eq_true hkey⟩)]
            exact hnone
        | kept hnone hsaves hc =>
            -- No later value is for this cell, and neither is a later text of a hook.
            have hlater : ¬(saves.any fun save => save.preference.key = p.key) = true := by
              simpa using hsaves
            have hhooks : env.hookWrites p st (save :: saves) =
                LastWrite.writesTo Manager.writeKeys p.key stored := by
              rw [hookWrites, if_neg hlater, hnone, List.append_nil, hwrites, List.tail_cons]
            rw [← hc] at hcell
            rw [hwrites,
              show (save.preference, text) :: stored = [(save.preference, text)] ++ stored from rfl,
              LastWrite.writesTo_append, List.getLast?_append] at hcell
            cases hstored : (LastWrite.writesTo Manager.writeKeys p.key stored).getLast? with
            | some w =>
                refine .hook w (by rw [hhooks, hstored]) ?_
                rw [hcell, hstored]
                rfl
            | none =>
                rw [hstored, Option.none_or] at hcell
                rw [List.getLast?_eq_none_iff] at hstored
                by_cases hkey : save.preference.key = p.key
                · refine .own save text (hhooks.trans hstored) List.mem_cons_self hkey htext ?_
                  rw [hcell]
                  simp [LastWrite.writesTo, Manager.writeKeys, hkey]
                · refine .kept (hhooks.trans hstored) (List.forall_mem_cons.mpr ⟨hkey, hsaves⟩) ?_
                  rw [hcell]
                  simp [LastWrite.writesTo, Manager.writeKeys, Ne.symm hkey]

/-- Where nothing raises and no hook stores anything, a value is saved as without hooks. -/
theorem saveAll_of_silent (hsilent : ∀ p old new, (env.hookRun p old new).stored = [])
    (h : env.saveAll .none saves st = (true, st')) :
    env.toEnvironment.saveAll saves st = (true, st') := by
  induction saves generalizing st with
  | nil => exact h
  | cons save saves ih =>
      rw [saveAll] at h
      rw [Environment.saveAll, Manager.updateDbPref_eq]
      split at h
      · cases h
      · rename_i st₁ hsave
        unfold updatePreferenceValue at hsave
        dsimp only at hsave
        split at hsave
        · rename_i old_value text hvalue htext
          -- The row can be loaded, since it has a value.
          obtain ⟨loaded, hloaded, -⟩ := Option.bind_eq_some_iff.mp hvalue
          simp only [Faults.none, notifyOnPreferenceUpdate, hsilent, Bool.false_eq_true, if_false,
            List.foldl_nil, Prod.mk.injEq] at hsave
          rw [hloaded, htext]
          obtain ⟨-, rfl⟩ := hsave
          exact ih h
        · cases hsave

/-! ## Changes -/

/-- A change leaves the stored values of the category as they were, whenever it raises and whichever
step does, exactly if the `dict` is refused or nothing that would be written is of another value
than the row has. -/
theorem atomic_iff (env : SaveEnvironment) (r : Registry) (slug : Option String)
    (data : List (String × Json)) (st : Store) :
    (∀ faults, env.Atomic faults r slug data st) ↔
      (env.accepts r slug data st = true → env.ChangesNothing r slug data st) := by
  have hkeys : ((env.changes r slug data st).map (·.preference.key)).Nodup :=
    (r.nodup_category_keys slug).sublist (Environment.keys_pending_sublist _)
  unfold Atomic validateAndSave Environment.accepts
  have hread : env.manager.KeepsValues r slug st (env.validate r slug data st).2 :=
    Environment.touched_validate.keepsValues
  cases hvalid : env.validate r slug data st with
  | mk result st₁ =>
      rw [hvalid] at hread
      cases result with
      | error outcome => exact iff_of_true (fun _ _ => hread) fun hfalse => by cases hfalse
      | ok saves =>
          obtain rfl := Environment.eq_changes_of_validate hvalid
          constructor
          · intro hatomic _
            refine rewrites_of_saveAll hkeys Environment.mem_category_of_changes hread ?_
            intro faults hraised
            have hkept := hatomic faults
            dsimp only at hkept
            cases hsaved : env.saveAll faults (env.changes r slug data st) st₁ with
            | mk completed st₂ =>
                rw [hsaved] at hraised hkept
                dsimp only at hraised
                subst hraised
                exact hkept rfl
          · intro hnothing faults _
            have hkept := keepsValues_saveAll faults Environment.mem_category_of_changes hread
              (hnothing rfl)
            dsimp only
            cases hsaved : env.saveAll faults (env.changes r slug data st) st₁ with
            | mk completed st₂ =>
                rw [hsaved] at hkept
                cases completed with
                | false => exact hkept
                | true =>
                    -- The category is read once more after the saves.
                    exact hkept.trans (Manager.touched_toRepresentation
                      fun p hp => r.mem_of_mem_category hp).keepsValues

/-- An accepted change is read from the store, checked, saved and read once more. -/
theorem of_saved {return_data : Option (List (String × Json))}
    (h : env.validateAndSave faults r slug data st = (.saved return_data, st')) :
    ∃ st₁ saved : Store, env.manager.Touched r st st₁ ∧
      (∀ p ∈ r.category slug, (env.manager.getPreferenceValue p st).1.isSome = true) ∧
      (∀ p ∈ r.category slug, ∀ err, env.fate data st p ≠ some (.error err)) ∧
      (∀ kv ∈ data, ∃ p ∈ r.category slug, p.name = kv.1) ∧
      env.saveAll faults (env.changes r slug data st) st₁ = (true, saved) ∧
      env.manager.toRepresentation (r.category slug) saved = (return_data, st') := by
  have htouched : env.manager.Touched r st (env.validate r slug data st).2 :=
    Environment.touched_validate
  unfold validateAndSave at h
  split at h
  · rename_i outcome st₁ hvalid
    cases h
    exact absurd rfl (Environment.ne_saved_of_validate hvalid return_data)
  · rename_i saves st₁ hvalid
    obtain ⟨hreads, hfailures, hnames⟩ := Environment.of_validate_ok hvalid
    obtain rfl := Environment.eq_changes_of_validate hvalid
    rw [hvalid] at htouched
    split at h
    · cases h
    · rename_i saved hsaved
      obtain ⟨hreturn, hst⟩ := Prod.mk.inj h
      exact ⟨st₁, saved, htouched, hreads, hfailures, hnames, hsaved,
        Prod.ext (Outcome.saved.inj hreturn) hst⟩

/-- A change with which nothing raises and no hook stores anything is the change without hooks. -/
theorem validateAndSave_of_silent {return_data : Option (List (String × Json))}
    (hsilent : ∀ p old new, (env.hookRun p old new).stored = [])
    (h : env.validateAndSave .none r slug data st = (.saved return_data, st')) :
    env.toEnvironment.validateAndSave r slug data st = (.saved return_data, st') := by
  rw [Environment.validateAndSave_eq]
  unfold validateAndSave at h
  split at h
  · exact h
  · dsimp only
    split at h
    · cases h
    · rename_i st₂ hsaved
      rw [saveAll_of_silent hsilent hsaved]
      exact h

end SaveEnvironment

/-! ## A text that the database does not take -/

/-- The user name for Red Hat, which is registered before the one for subscriptions. -/
def redhatUsername : Preference :=
  { subscriptionsUsername with name := "REDHAT_USERNAME" }

/-- The registry with these two. -/
def usernamesRegistry : Registry where
  preferences := [redhatUsername, subscriptionsUsername]
  nodup_names := by decide

/-- Their environment: neither has a hook. -/
def usernamesEnvironment : SaveEnvironment :=
  { plainEnvironment with onUpdate := fun _ => none }

/-- The database takes no text with a null character. -/
def refusesNull : Faults where
  refusesRow _ text := text.toList.contains (Char.ofNat 0)
  breaksOff _ := none

/-- Both user names are accepted. The first is saved before the second raises, and stays. -/
theorem not_atomic_nullUsername :
    ¬ usernamesEnvironment.Atomic refusesNull usernamesRegistry (some "analytics")
      [("REDHAT_USERNAME", .str "bob"), ("SUBSCRIPTIONS_USERNAME", .str "bob\x00")] noUsername := by
  intro h
  have hkept := h rfl redhatUsername List.mem_cons_self
  have hbefore : unusedKey.rowValue redhatUsername (noUsername redhatUsername.key) =
      some (.str "") := rfl
  have hafter : unusedKey.rowValue redhatUsername
      ((usernamesEnvironment.validateAndSave refusesNull usernamesRegistry (some "analytics")
        [("REDHAT_USERNAME", .str "bob"), ("SUBSCRIPTIONS_USERNAME", .str "bob\x00")]
        noUsername).2 redhatUsername.key) = some (.str "bob") := rfl
  have hsame := hafter.symm.trans (hkept.trans hbefore)
  simp at hsame

end AapGateway.Preferences
