import AapGateway.Foundations.JsonDict
import AapGateway.Preferences.Settings

/-!
# Encrypted preferences read in the clear

The value of an encrypted preference is encrypted when its row is saved, decrypted when the row is
loaded, and decrypted once more by whoever asks for it in the clear. Its text is encrypted again on
its way into the cache and decrypted on its way out. The text of an instance that was just saved
is still encrypted, that of one which was loaded is not.

## Main definitions

* `Manager.getPreferenceValueInClear`: `get_preference_value` with `encrypted=False`;
* `Manager.manyFromCache`: the values of the preferences that are in the cache.

## Main results

* `Manager.holds_updateDbPref`: every read of a cell in which a text was saved gives that text in
  the clear;
* `Manager.value_of_set`: what is read after an encrypted preference is set;
* `Manager.manyFromCache_lookup`: what is read of many preferences at once.
-/

namespace AapGateway.Preferences

open SecretKey (encryptedMarker)

/-- `decrypt_string`, of a value. One that is no string is not encrypted. -/
def Encryption.decryptValue (e : Encryption) : Json → Option Json
  | .str s => (e.decryptString s).map .str
  | value => some value

/-- What is encrypted can be decrypted, and is marked. -/
structure Encryption.RoundTrips (e : Encryption) : Prop where
  decryptString_encryptString : ∀ s, e.decryptString (e.encryptString (.str s)) = some s
  startsWith_encryptString : ∀ s, Text.startsWith (e.encryptString (.str s)) encryptedMarker = true

/-- Strings come back from the text that is stored for them. -/
def Serializer.RoundTrips (serializer : Serializer) : Prop :=
  ∀ s, ∃ text,
    serializer.toDb (.str s) = some text ∧ serializer.toPython (some text) = some (.str s)

namespace Manager

variable (m : Manager)

/-- `get_preference_value` with `encrypted=False`. -/
def getPreferenceValueInClear (p : Preference) (st : Store) : Option Json × Store :=
  match p.setting with
  | some value => (value, st)
  | none =>
    let (value, c) := m.get p (st p.key)
    (if p.encrypted then value.bind m.encryption.decryptValue else value,
      Function.update st p.key c)

/-- `EncryptedPreferencesManager.many_from_cache`, by the identifiers of the preferences. -/
def manyFromCache (preferences : List Preference) (st : Store) :
    Option (List ((String × String) × Json)) := do
  let cached := preferences.filterMap fun p => (st p.key).cached.map (p, ·)
  -- The texts are decrypted first, and then deserialized.
  let cached ← cached.mapM fun (p, v) =>
    if v = m.noneValue then some (p, none)
    else (m.encryption.decryptString v).map fun text => (p, some text)
  cached.mapM fun (p, text) => (p.serializer.toPython text).map (p.key, ·)

/-- A preference is set to a value. -/
def set (p : Preference) (value : Json) (st : Store) : Option Store :=
  (m.updateDbPref p value (st p.key)).map (Function.update st p.key)

/-- The cache drops the entry of a preference. -/
def evict (p : Preference) (st : Store) : Store :=
  Function.update st p.key { st p.key with cached := none }

variable {m} {p : Preference} {st : Store}

/-- The text of an encrypted preference is cached encrypted. -/
theorem toCache_encrypted (hencrypted : p.encrypted = true) (hhelper : m.encryption.RoundTrips)
    (text : String) : m.toCache p (some text) = m.encryption.encryptString (.str text) := by
  have hne : m.encryption.encryptString (.str text) ≠ "" := by
    intro hempty
    have hmarked := hhelper.startsWith_encryptString text
    rw [hempty] at hmarked
    exact absurd hmarked (by decide)
  unfold toCache
  rw [if_pos hencrypted]
  exact if_neg hne

/-- What is read of a cached text is the value of the text, whichever text that is. -/
theorem fromCache_toCache_encrypted (hencrypted : p.encrypted = true)
    (hhelper : m.encryption.RoundTrips)
    (hnone : Text.startsWith m.noneValue encryptedMarker = false) (text : String) :
    m.fromCache p (m.toCache p (some text)) = p.serializer.toPython (some text) := by
  have hne : m.encryption.encryptString (.str text) ≠ m.noneValue := by
    intro heq
    rw [← heq, hhelper.startsWith_encryptString] at hnone
    cases hnone
  rw [toCache_encrypted hencrypted hhelper, fromCache, if_neg hne,
    hhelper.decryptString_encryptString, Option.bind_some]

/-! ## What is read of one preference -/

/-- What a read in the clear makes of the value of the manager. -/
def IsClear (m : Manager) (c : String) (value : Option Json) : Prop :=
  value.bind m.encryption.decryptValue = some (.str c)

/-- A text that is not encrypted is read as it is. -/
theorem isClear_clear {c : String} (hc : m.encryption.recognises c = false) :
    m.IsClear c (some (.str c)) := by
  simp [IsClear, Encryption.decryptValue, Encryption.decryptString, hc]

/-- One that is encrypted is decrypted. -/
theorem isClear_encrypted (hhelper : m.encryption.RoundTrips) (c : String) :
    m.IsClear c (some (.str (m.encryption.encryptString (.str c)))) := by
  simp [IsClear, Encryption.decryptValue, hhelper.decryptString_encryptString]

/-- Where an encrypted preference is set to a text, every read of its cell gives that text: the row
holds the ciphertext, the cache the ciphertext of the ciphertext, and what is cached of a loaded row
is the ciphertext of the text. -/
theorem holds_updateDbPref (hencrypted : p.encrypted = true)
    (hserializer : p.serializer.RoundTrips) (hhelper : m.encryption.RoundTrips)
    (hnone : Text.startsWith m.noneValue encryptedMarker = false) {c : String}
    (hc : m.encryption.recognises c = false) {cell : Cell}
    (hload : (m.fromDb p cell.raw_value).isSome = true) :
    ∃ raw_value : String,
      p.serializer.toDb (.str (m.encryption.encryptString (.str c))) = some raw_value ∧
      m.updateDbPref p (.str c) cell =
        some { raw_value := some raw_value, cached := some (m.toCache p (some raw_value)) } ∧
      m.Holds (m.IsClear c) p
        { raw_value := some raw_value, cached := some (m.toCache p (some raw_value)) } := by
  obtain ⟨clear, htoDb, htoPython⟩ := hserializer c
  obtain ⟨raw_value, htoDb', htoPython'⟩ := hserializer (m.encryption.encryptString (.str c))
  obtain ⟨loaded, hloaded⟩ := Option.isSome_iff_exists.mp hload
  -- A row that is loaded holds the text in the clear.
  have hfromDb : m.fromDb p (some raw_value) = some (some clear) := by
    simp [fromDb, htoPython', hhelper.decryptString_encryptString, htoDb]
  refine ⟨raw_value, htoDb', ?_, fun text htext => ?_, ?_, fun raw_value' hdb => ?_⟩
  · simp [updateDbPref, hloaded, hencrypted, htoDb, htoPython, htoDb']
  · cases htext
    rw [fromCache_toCache_encrypted hencrypted hhelper hnone, htoPython']
    exact isClear_encrypted hhelper c
  · rw [rowValue, hfromDb, Option.bind_some, htoPython]
    exact isClear_clear hc
  · rw [hfromDb] at hdb
    cases hdb
    rw [fromCache_toCache_encrypted hencrypted hhelper hnone, htoPython]
    exact isClear_clear hc

/-- A read in the clear of a cell that holds a text gives the text, and leaves such a cell. -/
theorem getPreferenceValueInClear_of_holds (hencrypted : p.encrypted = true)
    (hsetting : p.setting = none) {c : String} (h : m.Holds (m.IsClear c) p (st p.key)) :
    (m.getPreferenceValueInClear p st).1 = some (.str c) ∧
      m.Holds (m.IsClear c) p ((m.getPreferenceValueInClear p st).2 p.key) := by
  unfold getPreferenceValueInClear
  rw [hsetting]
  dsimp only
  rw [if_pos hencrypted, Function.update_self]
  exact ⟨h.get, holds_get_iff.mpr h⟩

/-- So does the loss of the entry of the cache. -/
theorem holds_evict {Q : Option Json → Prop} (h : m.Holds Q p (st p.key)) :
    m.Holds Q p (evict p st p.key) := by
  rw [evict, Function.update_self]
  exact h.evict

/-- In every run of accesses the value of an encrypted preference stays what it was set to. -/
theorem getPreferenceValueInClear_after {r : Registry} (hp : p ∈ r.preferences)
    (hencrypted : p.encrypted = true) (hsetting : p.setting = none) {c : String}
    (h : m.Holds (m.IsClear c) p (st p.key)) (accesses : List (Access r)) :
    (m.getPreferenceValueInClear p (m.after st accesses)).1 = some (.str c) :=
  (getPreferenceValueInClear_of_holds hencrypted hsetting (h.after hp accesses)).1

/-! ## What is read of many preferences -/

/-- Two passes over a list, either of which may fail, are as one. -/
theorem mapM_bind_mapM {α β γ : Type} (f : α → Option β) (g : β → Option γ) (as : List α) :
    ((as.mapM f).bind fun bs => bs.mapM g) = as.mapM fun a => (f a).bind g := by
  induction as with
  | nil => rfl
  | cons a as ih =>
      rw [List.mapM_cons, List.mapM_cons, ← ih]
      cases f a with
      | none => rfl
      | some b =>
          cases as.mapM f with
          | none => cases hb : g b <;> simp [hb]
          | some bs => simp [List.mapM_cons]

/-- Each preference that is in the cache is read as it is read by itself. -/
theorem manyFromCache_eq (preferences : List Preference) :
    m.manyFromCache preferences st =
      (preferences.filterMap fun p => (st p.key).cached.map (p, ·)).mapM fun (p, v) =>
        (m.fromCache p v).map (p.key, ·) := by
  refine (mapM_bind_mapM _ _ _).trans (congrArg (List.mapM · _) (funext fun (p, v) => ?_))
  unfold fromCache
  dsimp only
  split
  · rfl
  · rw [Option.bind_map, Option.map_bind]
    rfl

/-- All can be read exactly if each one that is in the cache can. -/
theorem isSome_manyFromCache_iff {preferences : List Preference} :
    (m.manyFromCache preferences st).isSome = true ↔
      ∀ p ∈ preferences, ∀ v, (st p.key).cached = some v → (m.fromCache p v).isSome = true := by
  rw [manyFromCache_eq, List.isSome_mapM_iff]
  simp only [List.mem_filterMap, Option.map_eq_some_iff, Option.isSome_map]
  constructor
  · intro h p hp v hv
    exact h (p, v) ⟨p, hp, v, hv, rfl⟩
  · rintro h _ ⟨p, hp, v, hv, rfl⟩
    exact h p hp v hv

/-- What is found under a key is the value of the preference with this key, if it is in the cache.
-/
theorem lookup_manyFromCache {preferences : List Preference}
    {values : List ((String × String) × Json)}
    (h : m.manyFromCache preferences st = some values) (key : String × String) :
    values.lookup key = (preferences.find? (·.key = key)).bind fun p =>
      (st key).cached.bind (m.fromCache p) := by
  rw [manyFromCache_eq] at h
  induction preferences generalizing values with
  | nil =>
      cases h
      rfl
  | cons p preferences ih =>
      rw [List.filterMap_cons] at h
      cases hcached : (st p.key).cached with
      | none =>
          -- It is passed over.
          rw [hcached] at h
          rw [ih h, List.find?_cons]
          by_cases hkey : p.key = key
          · subst hkey
            simp [hcached]
          · simp [hkey]
      | some v =>
          rw [hcached] at h
          rw [Option.map_some, List.mapM_cons] at h
          obtain ⟨entry, hentry, h⟩ := Option.bind_eq_some_iff.mp h
          obtain ⟨rest, hrest, h⟩ := Option.bind_eq_some_iff.mp h
          obtain ⟨value, hvalue, rfl⟩ := Option.map_eq_some_iff.mp hentry
          cases h
          rw [List.lookup_cons, List.find?_cons]
          by_cases hkey : p.key = key
          · subst hkey
            simp [hcached, hvalue]
          · simp [hkey, beq_false_of_ne (Ne.symm hkey), ih hrest]

/-- Of preferences with distinct keys each that is in the cache is given the value it is read with
by itself. -/
theorem manyFromCache_lookup {preferences : List Preference}
    (hkeys : (preferences.map Preference.key).Nodup) {values : List ((String × String) × Json)}
    (h : m.manyFromCache preferences st = some values) (hp : p ∈ preferences) :
    values.lookup p.key = (st p.key).cached.bind (m.fromCache p) := by
  rw [lookup_manyFromCache h]
  cases hfind : preferences.find? (·.key = p.key) with
  | none => exact absurd hp (by simpa using fun hmem => List.find?_eq_none.mp hfind p hmem)
  | some q =>
      have hkey : q.key = p.key :=
        of_decide_eq_true (List.find?_some (p := fun q : Preference => q.key = p.key) hfind)
      rw [List.inj_on_of_nodup_map hkeys (List.mem_of_find?_eq_some hfind) hp hkey]
      rfl

/-! ## Transparency -/

/-- After an encrypted preference that is not bound to a setting is set to a text, what is read in
the clear is that text: from the entry that was cached for the saved instance, from the row once the
entry is lost, and from the entry that is cached for the loaded row. All preferences that are in the
cache are read together as each is read by itself. -/
theorem value_of_set (hencrypted : p.encrypted = true) (hsetting : p.setting = none)
    (hserializer : p.serializer.RoundTrips) (hhelper : m.encryption.RoundTrips)
    (hnone : Text.startsWith m.noneValue encryptedMarker = false) {c : String}
    (hc : m.encryption.recognises c = false)
    (hload : (m.fromDb p (st p.key).raw_value).isSome = true) :
    (∃ saved raw_value, m.set p (.str c) st = some saved ∧
      p.serializer.toDb (.str (m.encryption.encryptString (.str c))) = some raw_value ∧
      saved p.key =
        { raw_value := some raw_value, cached := some (m.toCache p (some raw_value)) } ∧
      (m.getPreferenceValueInClear p saved).1 = some (.str c) ∧
      (m.getPreferenceValueInClear p (evict p saved)).1 = some (.str c) ∧
      (m.getPreferenceValueInClear p (m.getPreferenceValueInClear p (evict p saved)).2).1 =
        some (.str c)) ∧
    ∀ (preferences : List Preference) (st' : Store), (preferences.map Preference.key).Nodup →
      ((m.manyFromCache preferences st').isSome = true ↔
        ∀ q ∈ preferences, ∀ v, (st' q.key).cached = some v → (m.fromCache q v).isSome = true) ∧
      ∀ values, m.manyFromCache preferences st' = some values →
        ∀ q ∈ preferences, values.lookup q.key = (st' q.key).cached.bind (m.fromCache q) := by
  refine ⟨?_, fun preferences st' hkeys => ⟨isSome_manyFromCache_iff, fun values h q hq =>
    manyFromCache_lookup hkeys h hq⟩⟩
  obtain ⟨raw_value, htoDb, hset, hholds⟩ :=
    holds_updateDbPref hencrypted hserializer hhelper hnone hc hload
  have hcell : Function.update st p.key _ p.key = _ := Function.update_self p.key
    { raw_value := some raw_value, cached := some (m.toCache p (some raw_value)) } st
  rw [← hcell] at hholds
  have hevicted := getPreferenceValueInClear_of_holds hencrypted hsetting (holds_evict hholds)
  refine ⟨_, raw_value, by rw [set, hset, Option.map_some], htoDb, hcell, ?_, hevicted.1, ?_⟩
  · exact (getPreferenceValueInClear_of_holds hencrypted hsetting hholds).1
  · exact (getPreferenceValueInClear_of_holds hencrypted hsetting hevicted.2).1

end Manager

theorem startsWith_marker (s : String)
    (h : Text.startsWith s "$encrypted$UTF8$AESCBC$" = true) :
    Text.startsWith s encryptedMarker = true :=
  List.isPrefixOf_iff_prefix.mpr
    ((List.isPrefixOf_iff_prefix.mp (by decide)).trans (List.isPrefixOf_iff_prefix.mp h))

theorem loads_emptyValue : Json.loads "__dynamic_preferences_empty_value" = none := by decide

theorem emptyValue_ne : "__dynamic_preferences_empty_value" ≠ "" := by decide

/-- A helper that marks what it encrypts. -/
def markingKey : Manager where
  encryption :=
    { recognises := fun s => Text.startsWith s "$encrypted$UTF8$AESCBC$"
      startsWith_of_recognises := startsWith_marker
      decryptRecognised := fun s => some (String.ofList (s.toList.drop 23))
      encryptString := fun
        | .str s => "$encrypted$UTF8$AESCBC$" ++ s
        | value => "$encrypted$UTF8$AESCBC$" ++ Json.dumps value }
  noneValue := "__dynamic_preferences_empty_value"
  loads_noneValue := loads_emptyValue
  noneValue_ne := emptyValue_ne

theorem roundTrips_markingKey : markingKey.encryption.RoundTrips where
  decryptString_encryptString s := by
    have hrecognised :
        markingKey.encryption.recognises ("$encrypted$UTF8$AESCBC$" ++ s) = true := by
      show Text.startsWith _ _ = true
      rw [Text.startsWith, String.toList_append]
      exact List.isPrefixOf_iff_prefix.mpr (List.prefix_append _ _)
    have hdrop : ("$encrypted$UTF8$AESCBC$" ++ s).toList.drop 23 = s.toList := by
      rw [String.toList_append]
      exact List.drop_left' (by decide)
    show Encryption.decryptString _ ("$encrypted$UTF8$AESCBC$" ++ s) = some s
    rw [Encryption.decryptString, if_pos hrecognised]
    show some (String.ofList (("$encrypted$UTF8$AESCBC$" ++ s).toList.drop 23)) = some s
    rw [hdrop, String.ofList_toList]
  startsWith_encryptString s := by
    show Text.startsWith ("$encrypted$UTF8$AESCBC$" ++ s) encryptedMarker = true
    rw [Text.startsWith, String.toList_append]
    exact List.isPrefixOf_iff_prefix.mpr
      ((List.isPrefixOf_iff_prefix.mp (by decide)).trans (List.prefix_append _ _))

theorem roundTrips_stringSerializer : stringSerializer.RoundTrips := fun s => ⟨s, rfl, rfl⟩

/-- A preference without a setting may be written. -/
theorem read_only_of_noSetting (h : (none : Option (Option Json)).isSome = true) :
    false = true := h

/-- The password of the console. -/
def redhatPassword : Preference where
  section_name := "analytics"
  name := "REDHAT_PASSWORD"
  encrypted := true
  read_only := false
  setting := none
  read_only_of_setting := read_only_of_noSetting
  isInteger := false
  isString := true
  serializer := stringSerializer
  validate := isStr

/-- No password is set. -/
def noPassword : Store := fun _ => { raw_value := some "", cached := none }

/-- The password is set, and read in the clear with its entry in the cache and without. -/
theorem value_of_set_password :
    ∃ saved, markingKey.set redhatPassword (.str "it's") noPassword = some saved ∧
      (markingKey.getPreferenceValueInClear redhatPassword saved).1 = some (.str "it's") ∧
      (markingKey.getPreferenceValueInClear redhatPassword
        (Manager.evict redhatPassword saved)).1 = some (.str "it's") := by
  obtain ⟨saved, _, hset, -, -, hcached, hrow, -⟩ :=
    (@Manager.value_of_set markingKey redhatPassword noPassword rfl rfl roundTrips_stringSerializer
      roundTrips_markingKey (by decide) "it's" (by decide) (by decide)).1
  exact ⟨saved, hset, hcached, hrow⟩

/-- An encrypted preference that is bound to a setting. -/
def boundPassword : Preference where
  section_name := "analytics"
  name := "REDHAT_PASSWORD"
  encrypted := true
  read_only := true
  setting := some (some (.str "from the settings"))
  read_only_of_setting := fun _ => rfl
  isInteger := false
  isString := true
  serializer := stringSerializer
  validate := isStr

/-- What it is set to is not what is read of it: the setting is. -/
theorem not_value_of_set_bound :
    boundPassword.encrypted = true ∧ boundPassword.serializer.RoundTrips ∧
    markingKey.encryption.RoundTrips ∧ markingKey.encryption.recognises "it's" = false ∧
    ∃ saved, markingKey.set boundPassword (.str "it's") noPassword = some saved ∧
      (markingKey.getPreferenceValueInClear boundPassword saved).1 =
        some (.str "from the settings") ∧
      (markingKey.getPreferenceValueInClear boundPassword saved).1 ≠ some (.str "it's") :=
  ⟨rfl, roundTrips_stringSerializer, roundTrips_markingKey, by decide, _, rfl, rfl, by
    show some (Json.str "from the settings") ≠ _
    decide⟩

end AapGateway.Preferences
