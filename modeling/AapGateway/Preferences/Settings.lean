import AapGateway.Preferences.Store

/-!
# Changing the settings of a category

`SettingSectionSerializer.validate_and_save` takes a `dict` of new values for the preferences of a
category. Each preference is read first; a value that is equal to the current one, or that is the
mask of encrypted values, is passed over; any other is converted by the serializer of the
preference, validated, and saved if nothing in the whole `dict` is wrong.

## Main definitions

* `Environment`: the interpreter, the manager, and what validates texts;
* `Environment.processFields` and `Environment.validateAndSave`.

## Main results

* `Environment.processFields_eq`: what the pass over the preferences collects, preference by
  preference;
* `Environment.cell_of_saved`: what each cell is after an accepted change.
-/

namespace AapGateway.Preferences

open SecretKey (encryptedMarker)

/-- What the settings are changed with. -/
structure Environment where
  py : Python
  manager : Manager
  /-- `AOC_UNCHANGEABLE_PREFERENCES`, empty unless this is an instance of that kind. -/
  unchangeable : List String
  /-- `ENHANCED_INPUT_VALIDATION_ENABLED`. -/
  enhancedValidation : Bool
  /-- `_run_text_validator` finds an error in the text of a field. -/
  textError : String → String → Bool
  /-- `_validate_json_list` or `_validate_json_dict` finds an error, given the stored value. -/
  jsonError : String → Json → Json → Bool

/-- Why a field is refused. -/
inductive SettingError where
  /-- Read-only by setting. -/
  | readOnlyBySetting
  /-- Read-only by the environment. -/
  | readOnlyByEnvironment
  /-- The serializer cannot convert the value. -/
  | notConverted
  /-- The preference does not validate the value. -/
  | notValid
  /-- "Must be an integer". -/
  | notInteger
  /-- "Must be a string". -/
  | notString
  /-- "Invalid key for category …". -/
  | invalidKey
  deriving DecidableEq, Repr

/-- A value to save, with the value it takes the place of. -/
structure Save where
  preference : Preference
  value : Json
  persisted_value : Json

/-- What `validate_and_save` ends with. -/
inductive Outcome where
  /-- A `ValidationError` on the named fields. -/
  | refused (errors : List (String × SettingError))
  /-- A `ValidationError` of the text validation. -/
  | unclean
  /-- Another exception, while the store is read or written. -/
  | raised
  /-- The values are saved, and the category is read again, which may raise. -/
  | saved (return_data : Option (List (String × Json)))

/-- `isinstance(value, int)`, which is true of booleans. -/
def isInt : Json → Bool
  | .num n => n.int?.isSome
  | .bool _ => true
  | _ => false

/-- `isinstance(value, str)`. -/
def isStr : Json → Bool
  | .str _ => true
  | _ => false

/-- `update_db_pref`: the cell of a preference after a value is saved. The row is loaded before, and
the cache is filled after. -/
def Manager.updateDbPref (m : Manager) (p : Preference) (value : Json) (c : Cell) :
    Option Cell := do
  let _ ← m.fromDb p c.raw_value
  let raw_value ← p.serializer.toDb value
  let raw_value ←
    if p.encrypted then do
      let value ← p.serializer.toPython (some raw_value)
      p.serializer.toDb (.str (m.encryption.encryptString value))
    else some raw_value
  return { raw_value := some raw_value, cached := some (m.toCache p (some raw_value)) }

/-- A value is saved whatever is cached. -/
theorem Manager.updateDbPref_congr {m : Manager} {p : Preference} {value : Json} {c c' : Cell}
    (h : c'.raw_value = c.raw_value) : m.updateDbPref p value c' = m.updateDbPref p value c := by
  unfold Manager.updateDbPref
  rw [h]

namespace Environment

variable (env : Environment)

/-- `is_read_only_preference`. -/
def isReadOnly (p : Preference) : Option SettingError :=
  if p.read_only then some .readOnlyBySetting
  else if env.unchangeable.contains p.name then some .readOnlyByEnvironment
  else none

/-- `_serialize_and_validate_preference_value`. -/
def serializeAndValidate (p : Preference) (new_value : Json) : Except SettingError Json :=
  match p.serializer.toPython (converterArg env.py new_value) with
  | none => .error .notConverted
  | some converted_value =>
    if !p.validate converted_value then .error .notValid
    else if p.isInteger && !isInt converted_value then .error .notInteger
    else if p.isString && !isStr converted_value then .error .notString
    else .ok converted_value

/-- What `process_fields` does with one preference, given its current value: `none` where there is
nothing to save. -/
def processField (data : List (String × Json)) (p : Preference) (current_value : Json) :
    Option (Except SettingError Save) :=
  match data.find? (·.1 = p.name) with
  | none => none
  | some (_, new_value) =>
    if env.py.eqv true current_value new_value then none
    else
      match env.isReadOnly p with
      | some err => some (.error err)
      | none =>
        if env.py.eqv true new_value (.str encryptedMarker) then none
        else
          some ((env.serializeAndValidate p new_value).map fun parsed_value =>
            { preference := p, value := parsed_value, persisted_value := current_value })

/-- `process_fields`: the errors and the values to save, or `none` where a preference cannot be
read.
-/
def processFields (data : List (String × Json)) : List Preference → Store →
    Option (List (String × SettingError) × List Save) × Store
  | [], st => (some ([], []), st)
  | p :: ps, st =>
    match env.manager.getPreferenceValue p st with
    | (none, st) => (none, st)
    | (some current_value, st) =>
      let (rest, st) := processFields data ps st
      (rest.map fun (errors, values_to_save) =>
        match env.processField data p current_value with
        | none => (errors, values_to_save)
        | some (.error err) => ((p.name, err) :: errors, values_to_save)
        | some (.ok save) => (errors, save :: values_to_save), st)

/-- `_validate_field_value` finds an error. Some fields are excluded. -/
def validateFieldValue (save : Save) : Bool :=
  if save.preference.name ∈ ["custom_login_info", "custom_logo"] then false
  else
    match save.value with
    | .str s =>
      !env.py.eqv true (.str s) save.persisted_value && env.textError save.preference.name s
    | .arr vs => env.jsonError save.preference.name (.arr vs) save.persisted_value
    | .obj kvs => env.jsonError save.preference.name (.obj kvs) save.persisted_value
    | _ => false

/-- `_run_clean_text_on_pending_saves` finds errors, or `none` where it raises: the form fields of
the category are made for it, and each is given the value of its preference. -/
def cleanTextErrors (category : List Preference) (values_to_save : List Save) (st : Store) :
    Option Bool × Store :=
  let changed := values_to_save.filter (!·.preference.encrypted)
  if changed.isEmpty || !env.enhancedValidation then (some false, st)
  else
    match env.manager.toRepresentation category st with
    | (none, st) => (none, st)
    | (some _, st) => (some (changed.any env.validateFieldValue), st)

/-- The values are saved one after the other. It is `false` where that raises. -/
def saveAll : List Save → Store → Bool × Store
  | [], st => (true, st)
  | save :: saves, st =>
    match env.manager.updateDbPref save.preference save.value (st save.preference.key) with
    | none => (false, st)
    | some c => saveAll saves (Function.update st save.preference.key c)

/-- `validate_and_save`. -/
def validateAndSave (r : Registry) (category_slug : Option String) (data : List (String × Json))
    (st : Store) : Outcome × Store :=
  let category := r.category category_slug
  match env.processFields data category st with
  | (none, st) => (.raised, st)
  | (some (errors, values_to_save), st) =>
    let additional_keys :=
      (data.map Prod.fst).filter fun key => !(category.map Preference.name).contains key
    let errors := errors ++ additional_keys.map fun key => (key, .invalidKey)
    if !errors.isEmpty then (.refused errors, st)
    else
      match env.cleanTextErrors category values_to_save st with
      | (none, st) => (.raised, st)
      | (some true, st) => (.unclean, st)
      | (some false, st) =>
        match env.saveAll values_to_save st with
        | (false, st) => (.raised, st)
        | (true, st) =>
          let (return_data, st) := env.manager.toRepresentation category st
          (.saved return_data, st)

/-! ## What is collected -/

/-- What becomes of a preference, from a store. -/
def fate (data : List (String × Json)) (st : Store) (p : Preference) :
    Option (Except SettingError Save) :=
  (env.manager.getPreferenceValue p st).1.bind (env.processField data p)

/-- The error of a preference. -/
def failure (data : List (String × Json)) (st : Store) (p : Preference) :
    Option (String × SettingError) :=
  match env.fate data st p with
  | some (.error err) => some (p.name, err)
  | _ => none

/-- What is to be saved of a preference. -/
def pending (data : List (String × Json)) (st : Store) (p : Preference) : Option Save :=
  match env.fate data st p with
  | some (.ok save) => some save
  | _ => none

variable {env} {r : Registry} {data : List (String × Json)} {st st' : Store} {p : Preference}

/-- What becomes of a preference depends on its own cell. -/
theorem fate_congr (h : st' p.key = st p.key) : env.fate data st' p = env.fate data st p := by
  unfold fate
  rw [Manager.getPreferenceValue_congr h]

/-- The pass over the preferences collects, of each that can be read, its error or what is to be
saved. -/
theorem processFields_eq {ps : List Preference} (hkeys : (ps.map Preference.key).Nodup)
    {errors : List (String × SettingError)} {values_to_save : List Save}
    (h : env.processFields data ps st = (some (errors, values_to_save), st')) :
    (∀ p ∈ ps, (env.manager.getPreferenceValue p st).1.isSome = true) ∧
      errors = ps.filterMap (env.failure data st) ∧
      values_to_save = ps.filterMap (env.pending data st) := by
  induction ps generalizing st errors values_to_save with
  | nil =>
      cases h
      exact ⟨by simp, rfl, rfl⟩
  | cons p ps ih =>
      rw [List.map_cons, List.nodup_cons] at hkeys
      -- The other preferences are read from the cells that they had before.
      have hother : ∀ q ∈ ps, (env.manager.getPreferenceValue p st).2 q.key = st q.key := by
        intro q hq
        refine Manager.getPreferenceValue_of_ne fun hkey => hkeys.1 ?_
        rw [← hkey]
        exact List.mem_map_of_mem hq
      rw [processFields] at h
      split at h
      · cases h
      · rename_i current_value st₁ hread
        rw [hread] at hother
        obtain ⟨hrest, hst⟩ := Prod.mk.inj h
        obtain ⟨⟨errors₁, saves₁⟩, hps, heq⟩ := Option.map_eq_some_iff.mp hrest
        have hpass : env.processFields data ps st₁ = (some (errors₁, saves₁), st') :=
          Prod.ext hps hst
        obtain ⟨hreads, herrors, hsaves⟩ := ih hkeys.2 hpass
        have hfate : env.fate data st p = env.processField data p current_value := by
          rw [fate, hread]
          rfl
        have hsame : ∀ q ∈ ps, env.fate data st₁ q = env.fate data st q :=
          fun q hq => fate_congr (hother q hq)
        have hfailures : ps.filterMap (env.failure data st₁) = ps.filterMap (env.failure data st) :=
          List.filterMap_congr fun q hq => by rw [failure, failure, hsame q hq]
        have hpendings : ps.filterMap (env.pending data st₁) = ps.filterMap (env.pending data st) :=
          List.filterMap_congr fun q hq => by rw [pending, pending, hsame q hq]
        rw [hfailures] at herrors
        rw [hpendings] at hsaves
        refine ⟨List.forall_mem_cons.mpr ⟨by rw [hread]; rfl, fun q hq => ?_⟩, ?_⟩
        · rw [← Manager.getPreferenceValue_congr (hother q hq)]
          exact hreads q hq
        · rw [List.filterMap_cons, List.filterMap_cons, failure, pending, hfate, ← herrors,
            ← hsaves]
          dsimp only at heq
          split at heq
          · rename_i hprocess
            cases heq
            simp [hprocess]
          · rename_i hprocess
            cases heq
            simp [hprocess]
          · rename_i hprocess
            cases heq
            simp [hprocess]

/-- The pass reads each preference once, and no other. -/
theorem touchedCell_processFields {ps : List Preference} {q : Preference}
    (hkeys : ∀ p ∈ ps, p.key = q.key → p = q) :
    env.manager.TouchedCell q (st q.key) ((env.processFields data ps st).2 q.key) := by
  induction ps generalizing st with
  | nil => exact .refl _
  | cons p ps ih =>
      obtain ⟨hkey, hkeys⟩ := List.forall_mem_cons.mp hkeys
      have htouched :
          env.manager.TouchedCell q (st q.key) ((env.manager.getPreferenceValue p st).2 q.key) :=
        Manager.touchedCell_getPreferenceValue hkey
      rw [processFields]
      split
      · rename_i heq
        rwa [heq] at htouched
      · rename_i heq
        rw [heq] at htouched
        exact htouched.trans (ih hkeys)

/-- The pass reads each preference of the category. -/
theorem touched_processFields {ps : List Preference} (hps : ∀ p ∈ ps, p ∈ r.preferences) :
    env.manager.Touched r st (env.processFields data ps st).2 :=
  fun _ hq => touchedCell_processFields fun p hp => r.eq_of_key (hps p hp) hq

/-- The text validation reads the category or nothing. -/
theorem touched_cleanTextErrors {ps : List Preference} (hps : ∀ p ∈ ps, p ∈ r.preferences)
    (values_to_save : List Save) :
    env.manager.Touched r st (env.cleanTextErrors ps values_to_save st).2 := by
  have htouched : env.manager.Touched r st (env.manager.toRepresentation ps st).2 :=
    Manager.touched_toRepresentation hps
  unfold cleanTextErrors
  dsimp only
  split
  · exact .refl st
  · split
    · rename_i heq
      rwa [heq] at htouched
    · rename_i heq
      rwa [heq] at htouched

/-- A submitted value that is equal to the current one, or that is the mask, is passed over. -/
def passesOver (env : Environment) (current_value new_value : Json) : Bool :=
  env.py.eqv true current_value new_value || env.py.eqv true new_value (.str encryptedMarker)

/-- A preference without a fate is not named, or the value that is submitted is passed over. -/
theorem passesOver_of_processField {current_value : Json} {key : String} {new_value : Json}
    (h : env.processField data p current_value = none)
    (hfind : data.find? (·.1 = p.name) = some (key, new_value)) :
    env.passesOver current_value new_value = true := by
  rw [processField, hfind] at h
  dsimp only at h
  unfold passesOver
  split at h
  · rename_i hsame
    rw [hsame, Bool.true_or]
  · split at h
    · cases h
    · split at h
      · rename_i hmask
        rw [hmask, Bool.or_true]
      · cases h

/-- What is to be saved is of the preference, which may be written, and is the submitted value,
converted and validated. -/
theorem of_processField_ok {current_value : Json} {save : Save}
    (h : env.processField data p current_value = some (.ok save)) :
    save.preference = p ∧ p.read_only = false ∧
      ∃ key new_value, data.find? (·.1 = p.name) = some (key, new_value) ∧
        env.passesOver current_value new_value = false ∧
        env.serializeAndValidate p new_value = .ok save.value := by
  unfold processField at h
  split at h
  · cases h
  · rename_i key new_value hfind
    split at h
    · cases h
    · rename_i hchanged
      split at h
      · cases h
      · rename_i hwritable
        split at h
        · cases h
        · rename_i hunmasked
          have hread_only : p.read_only = false := by
            unfold isReadOnly at hwritable
            split at hwritable
            · cases hwritable
            · rename_i hfalse
              exact eq_false_of_ne_true hfalse
          have hkept : env.passesOver current_value new_value = false := by
            unfold passesOver
            rw [eq_false_of_ne_true hchanged, eq_false_of_ne_true hunmasked]
            rfl
          cases hvalid : env.serializeAndValidate p new_value with
          | error err =>
              rw [hvalid] at h
              cases h
          | ok parsed_value =>
              rw [hvalid] at h
              cases h
              exact ⟨rfl, hread_only, key, new_value, hfind, hkept, hvalid⟩

/-- A value that is valid is what the serializer makes of it. -/
theorem toPython_of_serializeAndValidate {new_value parsed_value : Json}
    (h : env.serializeAndValidate p new_value = .ok parsed_value) :
    p.serializer.toPython (converterArg env.py new_value) = some parsed_value := by
  unfold serializeAndValidate at h
  split at h
  · cases h
  · rename_i converted_value hconverted
    split_ifs at h
    cases h
    exact hconverted

/-- Each value is saved in the cell of its preference, and no other cell is changed. -/
theorem cell_of_saveAll {saves : List Save} (hkeys : (saves.map (·.preference.key)).Nodup)
    (h : env.saveAll saves st = (true, st')) :
    (∀ save ∈ saves, env.manager.updateDbPref save.preference save.value (st save.preference.key) =
      some (st' save.preference.key)) ∧
      ∀ key ∉ saves.map (·.preference.key), st' key = st key := by
  induction saves generalizing st with
  | nil =>
      cases h
      exact ⟨by simp, fun key _ => rfl⟩
  | cons save saves ih =>
      rw [List.map_cons, List.nodup_cons] at hkeys
      rw [saveAll] at h
      split at h
      · cases h
      · rename_i c hsave
        obtain ⟨hsaves, hothers⟩ := ih hkeys.2 h
        refine ⟨List.forall_mem_cons.mpr ⟨?_, fun s hs => ?_⟩, fun key hkey => ?_⟩
        · rw [hothers _ hkeys.1, Function.update_self, hsave]
        · have hne : s.preference.key ≠ save.preference.key := by
            intro heq
            rw [← heq] at hkeys
            exact hkeys.1 (List.mem_map_of_mem hs)
          rw [← hsaves s hs, Function.update_of_ne hne]
        · rw [List.map_cons, List.mem_cons, not_or] at hkey
          rw [hothers key hkey.2, Function.update_of_ne hkey.1]

/-! ## Accepted changes -/

/-- What an accepted change makes of the cell of a preference. -/
inductive Changed (env : Environment) (data : List (String × Json)) (st : Store) (p : Preference)
    (c : Cell) : Prop
  /-- The preference was read, if at all. -/
  | kept (hc : c = st p.key ∨ c = (env.manager.get p (st p.key)).2)
      (hfate : env.fate data st p = none)
  /-- A value was saved. -/
  | saved (save : Save) (hfate : env.fate data st p = some (.ok save))
      (hc : env.manager.updateDbPref p save.value (st p.key) = some c)

/-- A field that is no key of the `dict` has no fate. -/
theorem fate_eq_none_of_find? (h : data.find? (·.1 = p.name) = none) :
    env.fate data st p = none := by
  unfold fate
  cases (env.manager.getPreferenceValue p st).1 with
  | none => rfl
  | some current_value =>
      rw [Option.bind_some, processField, h]

/-- What is to be saved is of the preference it was collected from. -/
theorem preference_of_fate {save : Save} (h : env.fate data st p = some (.ok save)) :
    save.preference = p := by
  obtain ⟨current_value, -, hprocess⟩ := Option.bind_eq_some_iff.mp h
  exact (of_processField_ok hprocess).1

/-- What is to be saved is the fate of a preference. -/
theorem pending_eq_some_iff {save : Save} :
    env.pending data st p = some save ↔ env.fate data st p = some (.ok save) := by
  unfold pending
  split
  · rename_i hfate
    simp [hfate]
  · rename_i hnot
    exact ⟨by simp, fun h => absurd h (hnot save)⟩

/-- The values to save are for some of the preferences, in their order. -/
theorem map_pending_sublist {α : Type} (f : Preference → α) (ps : List Preference) :
    ((ps.filterMap (env.pending data st)).map fun save => f save.preference).Sublist
      (ps.map f) := by
  induction ps with
  | nil => exact List.Sublist.refl _
  | cons p ps ih =>
      rw [List.filterMap_cons]
      split
      · exact ih.cons _
      · rename_i save hsave
        rw [List.map_cons, List.map_cons, preference_of_fate (pending_eq_some_iff.mp hsave)]
        exact ih.cons_cons _

/-- So are their keys. -/
theorem keys_pending_sublist (ps : List Preference) :
    ((ps.filterMap (env.pending data st)).map (·.preference.key)).Sublist
      (ps.map Preference.key) :=
  map_pending_sublist Preference.key ps

/-- The errors are of some of the preferences, in their order. -/
theorem names_failure_sublist (ps : List Preference) :
    ((ps.filterMap (env.failure data st)).map Prod.fst).Sublist (ps.map Preference.name) := by
  induction ps with
  | nil => exact List.Sublist.refl _
  | cons p ps ih =>
      rw [List.filterMap_cons]
      split
      · exact ih.cons _
      · rename_i error herror
        unfold failure at herror
        split at herror
        · cases herror
          exact ih.cons_cons _
        · cases herror

/-- Without errors no preference has failed, and every key of the `dict` is the name of a
preference. -/
theorem of_errors_eq_nil {ps : List Preference}
    (h : ps.filterMap (env.failure data st) ++
      ((data.map Prod.fst).filter fun key => !(ps.map Preference.name).contains key).map
        (fun key => (key, SettingError.invalidKey)) = []) :
    (∀ p ∈ ps, ∀ err, env.fate data st p ≠ some (.error err)) ∧
      ∀ kv ∈ data, ∃ p ∈ ps, p.name = kv.1 := by
  obtain ⟨hfailures, hkeys⟩ := List.append_eq_nil_iff.mp h
  constructor
  · intro p hp err hfate
    have hnone := List.filterMap_eq_nil_iff.mp hfailures p hp
    rw [failure, hfate] at hnone
    cases hnone
  · intro kv hkv
    rw [List.map_eq_nil_iff, List.filter_eq_nil_iff] at hkeys
    have hkey := hkeys kv.1 (List.mem_map_of_mem hkv)
    simpa using hkey

/-- A registered preference that is named in the `dict` is among those whose names its keys are. -/
theorem mem_of_named {ps : List Preference} (hps : ∀ p ∈ ps, p ∈ r.preferences)
    (hnames : ∀ kv ∈ data, ∃ p ∈ ps, p.name = kv.1) (hp : p ∈ r.preferences) {kv : String × Json}
    (hfind : data.find? (·.1 = p.name) = some kv) : p ∈ ps := by
  obtain ⟨q, hq, hname⟩ := hnames kv (List.mem_of_find?_eq_some hfind)
  have hkey : kv.1 = p.name := of_decide_eq_true
    (List.find?_some (p := fun kv : String × Json => kv.1 = p.name) hfind)
  rwa [List.inj_on_of_nodup_map r.nodup_names hp (hps q hq) (hkey.symm.trans hname.symm)]

/-- What the saves of an accepted `dict` make of the cells. -/
theorem changed_of_saveAll {ps : List Preference} (hps : ∀ p ∈ ps, p ∈ r.preferences)
    (hkeys : (ps.map Preference.key).Nodup) {st₂ st₃ : Store}
    (htouched : env.manager.Touched r st st₂)
    (hfailures : ∀ p ∈ ps, ∀ err, env.fate data st p ≠ some (.error err))
    (hnames : ∀ kv ∈ data, ∃ p ∈ ps, p.name = kv.1)
    (hsaves : env.saveAll (ps.filterMap (env.pending data st)) st₂ = (true, st₃)) :
    ∀ p ∈ r.preferences, Changed env data st p (st₃ p.key) := by
  obtain ⟨hsaved, hothers⟩ := cell_of_saveAll (hkeys.sublist (keys_pending_sublist ps)) hsaves
  intro p hp
  cases hfate : env.fate data st p with
  | none =>
      -- No save is for this preference.
      have hcell : st₃ p.key = st₂ p.key := by
        refine hothers p.key fun hmem => ?_
        obtain ⟨save, hsave, hkey⟩ := List.mem_map.mp hmem
        obtain ⟨q, hq, hpending⟩ := List.mem_filterMap.mp hsave
        rw [pending_eq_some_iff] at hpending
        rw [preference_of_fate hpending] at hkey
        rw [r.eq_of_key (hps q hq) hp hkey, hfate] at hpending
        cases hpending
      refine .kept ?_ hfate
      rw [hcell]
      exact htouched p hp
  | some fate =>
      -- Its name is a key of the `dict`, so that it is of the category.
      have hmem : p ∈ ps := by
        cases hfind : data.find? (·.1 = p.name) with
        | none => rw [fate_eq_none_of_find? hfind] at hfate; cases hfate
        | some kv => exact mem_of_named hps hnames hp hfind
      cases fate with
      | error err => exact absurd hfate (hfailures p hmem err)
      | ok save =>
          have hpref := preference_of_fate hfate
          have hcell := hsaved save
            (List.mem_filterMap.mpr ⟨p, hmem, pending_eq_some_iff.mpr hfate⟩)
          rw [hpref, Manager.updateDbPref_congr (htouched.raw_value hp)] at hcell
          exact .saved save hfate hcell

/-- After an accepted change each cell is as it was read or holds the value that was saved, and
every key of the `dict` is the name of a preference of the category. The category is read once more
at the end. -/
theorem changed_of_saved {slug : Option String} {return_data : Option (List (String × Json))}
    (h : env.validateAndSave r slug data st = (.saved return_data, st')) :
    ∃ saved : Store, env.manager.toRepresentation (r.category slug) saved = (return_data, st') ∧
      (∀ p ∈ r.category slug, (env.manager.getPreferenceValue p st).1.isSome = true) ∧
      (∀ kv ∈ data, ∃ p ∈ r.category slug, p.name = kv.1) ∧
      ∀ p ∈ r.preferences, Changed env data st p (saved p.key) := by
  have hps : ∀ p ∈ r.category slug, p ∈ r.preferences := fun p hp => r.mem_of_mem_category hp
  unfold validateAndSave at h
  dsimp only at h
  split at h
  · cases h
  · rename_i errors values_to_save st₁ hprocess
    have htouched₁ : env.manager.Touched r st (env.processFields data (r.category slug) st).2 :=
      touched_processFields hps
    obtain ⟨hreads, rfl, rfl⟩ := processFields_eq (r.nodup_category_keys slug) hprocess
    split at h
    · cases h
    · rename_i hnone
      rw [Bool.not_eq_true', Bool.not_eq_false, List.isEmpty_iff] at hnone
      obtain ⟨hfailures, hnames⟩ := of_errors_eq_nil hnone
      split at h
      · cases h
      · cases h
      · rename_i st₂ hclean
        have htouched₂ : env.manager.Touched r st₁ _ := touched_cleanTextErrors hps
          ((r.category slug).filterMap (env.pending data st))
        rw [hprocess] at htouched₁
        rw [hclean] at htouched₂
        split at h
        · cases h
        · rename_i st₃ hsaves
          obtain ⟨hreturn, hst⟩ := Prod.mk.inj h
          exact ⟨st₃, Prod.ext (Outcome.saved.inj hreturn) hst, hreads, hnames,
            changed_of_saveAll hps (r.nodup_category_keys slug) (htouched₁.trans htouched₂)
              hfailures hnames hsaves⟩

end Environment

end AapGateway.Preferences
