import AapGateway.Preferences.Serializers
import AapGateway.SecretKey.Encryption

/-!
# The preference store

Each registered preference has a row with its text, and the cache may have a copy of that text. Both
ways in go through the decryption helper, whether the preference is encrypted or not: a row when it
is loaded, a cached text when it is read. Reads fill the cache, and an entry may be dropped from the
cache at any time.

## Main definitions

* `Encryption` and `Manager`: the decryption helper and what the manager of the preferences uses;
* `Preference`, `Registry`, `Cell` and `Store`;
* `Access`: everything that reads the store;
* `Manager.Holds`: what every read of a cell gives.

## Main results

* `Manager.reads_iff_holds`: all reads of a preference, in every run of accesses, give what is held;
* `Manager.completes_iff`: every access completes, in every run, exactly if every cell can be read.
-/

namespace AapGateway.Preferences

open SecretKey (encryptedMarker)

/-- The encryption helper of the base library. -/
structure Encryption where
  /-- `is_encrypted_string(s)[0]`. -/
  recognises : String → Bool
  startsWith_of_recognises : ∀ s, recognises s = true → Text.startsWith s encryptedMarker = true
  /-- What a recognised string is decrypted to, or `none` where it raises `InvalidToken`. -/
  decryptRecognised : String → Option String
  /-- `encrypt_string(value)`. -/
  encryptString : Json → String

/-- `decrypt_string(s)`: unrecognised strings are returned unchanged. -/
def Encryption.decryptString (e : Encryption) (s : String) : Option String :=
  if e.recognises s then e.decryptRecognised s else some s

/-- What the manager of the preferences uses. -/
structure Manager where
  encryption : Encryption
  /-- `CACHE_NONE_VALUE`, the text that is cached in place of an empty one. -/
  noneValue : String
  loads_noneValue : Json.loads noneValue = none
  noneValue_ne : noneValue ≠ ""

/-- A registered preference. -/
structure Preference where
  section_name : String
  name : String
  encrypted : Bool
  read_only : Bool
  /-- For a settings-bound preference, the value of the setting. -/
  setting : Option (Option Json)
  /-- `register` makes a settings-bound preference read-only. -/
  read_only_of_setting : setting.isSome = true → read_only = true
  /-- It is an `IntegerPreference`. -/
  isInteger : Bool
  /-- It is a `StringPreference`. -/
  isString : Bool
  serializer : Serializer
  /-- `validate` does not raise. -/
  validate : Json → Bool

/-- What identifies the row of a preference. -/
def Preference.key (p : Preference) : String × String := (p.section_name, p.name)

/-- A preference that may be written is not bound to a setting. -/
theorem Preference.setting_eq_none (p : Preference) (h : p.read_only = false) :
    p.setting = none := by
  cases hsetting : p.setting with
  | none => rfl
  | some value =>
      rw [p.read_only_of_setting (by rw [hsetting]; rfl)] at h
      cases h

/-- The registered preferences, as `registered_preferences.py` has them: no name is used in two
sections. `SectionRegistry` is of registries in which one may be. -/
structure Registry where
  preferences : List Preference
  nodup_names : (preferences.map Preference.name).Nodup

/-- `registry.preferences(section)`. -/
def Registry.category (r : Registry) : Option String → List Preference
  | none => r.preferences
  | some slug => r.preferences.filter (·.section_name = slug)

/-- The row of a preference and its entry in the cache. -/
structure Cell where
  raw_value : Option String
  cached : Option String

/-- The rows of the preferences, and the cache. -/
abbrev Store := String × String → Cell

/-! ## Reading a cell -/

namespace Manager

variable (m : Manager) (p : Preference)

/-- `Preference.from_db`: the text of a row as it is loaded. A row that holds a string is
decrypted. -/
def fromDb (raw_value : Option String) : Option (Option String) :=
  (p.serializer.toPython raw_value).bind fun value =>
    match value with
    -- `if isinstance(value, str)`: the flag of the preference is not asked.
    | .str s => (m.encryption.decryptString s).bind fun s => (p.serializer.toDb (.str s)).map some
    | _ => some raw_value

/-- `EncryptedPreferencesManager.to_cache`: the text that is cached. -/
def toCache (raw_value : Option String) : String :=
  let value :=
    if p.encrypted then
      some (m.encryption.encryptString (raw_value.elim .null .str))
    else raw_value
  match value with
  | none => m.noneValue
  | some text => if text = "" then m.noneValue else text

/-- `EncryptedPreferencesManager.from_cache`: the value of a cached text. -/
def fromCache (cached_value : String) : Option Json :=
  if cached_value = m.noneValue then p.serializer.toPython none
  else (m.encryption.decryptString cached_value).bind fun text => p.serializer.toPython (some text)

/-- The value of a row: `objects.get(section=…, name=…).value`. -/
def rowValue (c : Cell) : Option Json :=
  (m.fromDb p c.raw_value).bind p.serializer.toPython

/-- `manager.get`: the value in the cache, else the value of the row, which is cached. -/
def get (c : Cell) : Option Json × Cell :=
  match c.cached with
  | some cached_value => (m.fromCache p cached_value, c)
  | none =>
    match m.fromDb p c.raw_value with
    | none => (none, c)
    | some raw_value =>
      (p.serializer.toPython raw_value, { c with cached := some (m.toCache p raw_value) })

/-! ## Reading the store -/

/-- `get_preference_value_by_preference`. The value of an encrypted preference is masked. -/
def getPreferenceValue (st : Store) : Option Json × Store :=
  match p.setting with
  | some value => (value, st) -- The setting is read, and neither the row nor the cache.
  | none =>
    let (value, c) := m.get p (st p.key)
    (if p.encrypted then value.map fun _ => .str encryptedMarker else value,
      Function.update st p.key c)

/-- `SettingPreferenceSerializer.get_value`, of the row of a preference. -/
def settingValue (st : Store) : Option Json :=
  (m.fromDb p (st p.key).raw_value).bind fun raw_value =>
    if p.encrypted then some (.str encryptedMarker) else p.serializer.toPython raw_value

/-- `SettingSectionSerializer.to_representation`: the values of the preferences of a category. The
first one that cannot be read ends it. -/
def toRepresentation : List Preference → Store → Option (List (String × Json)) × Store
  | [], st => (some [], st)
  | p :: ps, st =>
    match m.getPreferenceValue p st with
    | (none, st) => (none, st)
    | (some value, st) =>
      let (return_data, st) := toRepresentation ps st
      (return_data.map ((p.name, value) :: ·), st)

/-- `initialize_preferences`: the names of the preferences that cannot be read. Where there are any,
it raises `SystemExit`. -/
def initializePreferences : List Preference → Store → List String × Store
  | [], st => ([], st)
  | p :: ps, st =>
    let (value, c) := m.get p (st p.key)
    let (corrupt_preferences, st) := initializePreferences ps (Function.update st p.key c)
    (if value.isSome then corrupt_preferences else p.name :: corrupt_preferences, st)

end Manager

/-- What may happen to the store other than a change of a setting. -/
inductive Access (r : Registry)
  /-- The settings of a category are read. -/
  | category (slug : Option String)
  /-- A preference is read. -/
  | preference (p : Preference) (hp : p ∈ r.preferences)
  /-- The row of a preference is shown. -/
  | setting (p : Preference) (hp : p ∈ r.preferences)
  /-- The gateway starts. -/
  | start
  /-- The cache drops an entry. -/
  | evict (p : Preference) (hp : p ∈ r.preferences)

namespace Manager

variable {r : Registry} (m : Manager)

/-- An access: whether it completes, and the store after it. -/
def access : Access r → Store → Bool × Store
  | .category slug, st =>
    let (return_data, st) := m.toRepresentation (r.category slug) st
    (return_data.isSome, st)
  | .preference p _, st =>
    let (value, st) := m.getPreferenceValue p st
    (value.isSome, st)
  | .setting p _, st => ((m.settingValue p st).isSome, st)
  | .start, st =>
    let (corrupt_preferences, st) := m.initializePreferences r.preferences st
    (corrupt_preferences.isEmpty, st)
  | .evict p _, st => (true, Function.update st p.key { st p.key with cached := none })

/-- The store after a run of accesses. -/
def after (st : Store) (accesses : List (Access r)) : Store :=
  accesses.foldl (fun st a => (m.access a st).2) st

/-! ## What every read of a cell gives -/

/-- Every read of a cell gives what has `Q`: a read of the cached text, of the row, and of the text
that is cached for the row. -/
structure Holds (Q : Option Json → Prop) (p : Preference) (c : Cell) : Prop where
  cached : ∀ text, c.cached = some text → Q (m.fromCache p text)
  row : Q (m.rowValue p c)
  refilled : ∀ raw_value, m.fromDb p c.raw_value = some raw_value →
    Q (m.fromCache p (m.toCache p raw_value))

variable {m} {Q : Option Json → Prop} {p : Preference} {c : Cell}

/-- A read gives what is held. -/
theorem Holds.get (h : m.Holds Q p c) : Q (m.get p c).1 := by
  unfold Manager.get
  split
  · rename_i cached_value hcached
    exact h.cached _ hcached
  · -- Without a cached text the read is one of the row.
    have hrow := h.row
    unfold rowValue at hrow
    split
    · rename_i hdb
      rwa [hdb] at hrow
    · rename_i raw_value hdb
      rwa [hdb] at hrow

theorem Holds.imp {Q' : Option Json → Prop} (h : m.Holds Q p c)
    (himp : ∀ value, Q value → Q' value) : m.Holds Q' p c :=
  ⟨fun text htext => himp _ (h.cached text htext), himp _ h.row,
    fun raw_value hdb => himp _ (h.refilled raw_value hdb)⟩

/-- A read does not change what is held. -/
theorem holds_get_iff : m.Holds Q p (m.get p c).2 ↔ m.Holds Q p c := by
  unfold Manager.get
  split
  · exact Iff.rfl
  · rename_i hcached
    split
    · exact Iff.rfl
    · rename_i raw_value hdb
      constructor
      · -- Before the read there was no cached text.
        intro h
        refine ⟨fun text htext => ?_, h.row, h.refilled⟩
        rw [hcached] at htext
        cases htext
      · -- The only text that may be cached now is the one that the read has cached.
        intro h
        refine ⟨fun text htext => ?_, h.row, h.refilled⟩
        cases htext
        exact h.refilled raw_value hdb

/-- Neither does the loss of the cached text. -/
theorem Holds.evict (h : m.Holds Q p c) : m.Holds Q p { c with cached := none } :=
  ⟨fun _ htext => (Option.some_ne_none _ htext.symm).elim, h.row, h.refilled⟩

/-- A read leaves the row alone. -/
theorem raw_value_get : (m.get p c).2.raw_value = c.raw_value := by
  unfold Manager.get
  split
  · rfl
  · split <;> rfl

/-- A second read changes nothing more. -/
theorem get_get : (m.get p (m.get p c).2).2 = (m.get p c).2 := by
  cases hcached : c.cached with
  | some cached_value =>
      have hget : (m.get p c).2 = c := by simp [Manager.get, hcached]
      rw [hget, hget]
  | none =>
      cases hdb : m.fromDb p c.raw_value with
      | none =>
          have hget : (m.get p c).2 = c := by simp [Manager.get, hcached, hdb]
          rw [hget, hget]
      | some raw_value =>
          simp [Manager.get, hcached, hdb]

/-- What is held is what is given by a read, by a read without the cached text, and by one more read
after that. -/
theorem holds_of_gets (hget : Q (m.get p c).1)
    (hrow : Q (m.get p { c with cached := none }).1)
    (hagain : Q (m.get p (m.get p { c with cached := none }).2).1) : m.Holds Q p c := by
  refine ⟨fun text htext => ?_, ?_, fun raw_value hdb => ?_⟩
  · simpa [Manager.get, htext] using hget
  · unfold rowValue
    cases hdb : m.fromDb p c.raw_value with
    | none => simpa [Manager.get, hdb] using hrow
    | some raw_value => simpa [Manager.get, hdb] using hrow
  · simpa [Manager.get, hdb] using hagain

end Manager

/-! ## Cells of a store -/

/-- A key identifies a registered preference. -/
theorem Registry.eq_of_key {r : Registry} {p q : Preference} (hp : p ∈ r.preferences)
    (hq : q ∈ r.preferences) (h : p.key = q.key) : p = q :=
  List.inj_on_of_nodup_map r.nodup_names hp hq (Prod.ext_iff.mp h).2

/-- The keys of registered preferences are distinct. -/
theorem Registry.nodup_keys (r : Registry) : (r.preferences.map Preference.key).Nodup := by
  refine List.Nodup.of_map Prod.snd ?_
  rw [List.map_map]
  exact r.nodup_names

/-- So are those of the preferences of a category. -/
theorem Registry.nodup_category_keys (r : Registry) (slug : Option String) :
    ((r.category slug).map Preference.key).Nodup := by
  cases slug with
  | none => exact r.nodup_keys
  | some slug => exact r.nodup_keys.sublist (List.filter_sublist.map _)

/-- The preferences of a category are registered. -/
theorem Registry.mem_of_mem_category {r : Registry} {slug : Option String} {p : Preference}
    (h : p ∈ r.category slug) : p ∈ r.preferences := by
  cases slug with
  | none => exact h
  | some slug => exact List.mem_of_mem_filter h

namespace Manager

variable {r : Registry} (m : Manager)

/-- Reads lie between two contents of a cell: it is what it was, or what a read leaves. -/
def TouchedCell (p : Preference) (c c' : Cell) : Prop := c' = c ∨ c' = (m.get p c).2

/-- Reads lie between two stores: a cell is what it was, or what a read leaves. -/
def Touched (r : Registry) (st st' : Store) : Prop :=
  ∀ p ∈ r.preferences, st' p.key = st p.key ∨ st' p.key = (m.get p (st p.key)).2

variable {m} {st st' st'' : Store} {p q : Preference} {c c' c'' : Cell} {ps : List Preference}

theorem TouchedCell.refl (c : Cell) : m.TouchedCell p c c := Or.inl rfl

theorem TouchedCell.trans (h : m.TouchedCell p c c') (h' : m.TouchedCell p c' c'') :
    m.TouchedCell p c c'' := by
  rcases h with rfl | rfl
  · exact h'
  · -- Two reads of a cell are as one.
    rcases h' with rfl | rfl
    · exact Or.inr rfl
    · exact Or.inr get_get

/-- Reads leave the row alone. -/
theorem TouchedCell.raw_value (h : m.TouchedCell p c c') : c'.raw_value = c.raw_value := by
  rcases h with rfl | rfl
  · rfl
  · exact raw_value_get

/-- Reads change nothing about what is held. -/
theorem TouchedCell.holds_iff {Q : Option Json → Prop} (h : m.TouchedCell p c c') :
    m.Holds Q p c' ↔ m.Holds Q p c := by
  rcases h with rfl | rfl
  · exact Iff.rfl
  · exact holds_get_iff

/-- A read of one preference. -/
theorem touchedCell_update (hkey : p.key = q.key → p = q) :
    m.TouchedCell q (st q.key) (Function.update st p.key (m.get p (st p.key)).2 q.key) := by
  by_cases heq : q.key = p.key
  · obtain rfl := hkey heq.symm
    exact Or.inr (Function.update_self _ _ _)
  · exact Or.inl (Function.update_of_ne heq _ _)

theorem touchedCell_getPreferenceValue (hkey : p.key = q.key → p = q) :
    m.TouchedCell q (st q.key) ((m.getPreferenceValue p st).2 q.key) := by
  unfold getPreferenceValue
  cases p.setting with
  | some value => exact .refl _
  | none => exact touchedCell_update hkey

theorem touchedCell_toRepresentation (hkeys : ∀ p ∈ ps, p.key = q.key → p = q) :
    m.TouchedCell q (st q.key) ((m.toRepresentation ps st).2 q.key) := by
  induction ps generalizing st with
  | nil => exact .refl _
  | cons p ps ih =>
      obtain ⟨hkey, hkeys⟩ := List.forall_mem_cons.mp hkeys
      have htouched : m.TouchedCell q (st q.key) ((m.getPreferenceValue p st).2 q.key) :=
        touchedCell_getPreferenceValue hkey
      rw [toRepresentation]
      split
      · rename_i heq
        rwa [heq] at htouched
      · rename_i heq
        rw [heq] at htouched
        exact htouched.trans (ih hkeys)

theorem Touched.refl (st : Store) : m.Touched r st st := fun _ _ => Or.inl rfl

theorem Touched.trans (h : m.Touched r st st') (h' : m.Touched r st' st'') :
    m.Touched r st st'' :=
  fun p hp => TouchedCell.trans (h p hp) (h' p hp)

/-- A read of one preference. -/
theorem touched_update (hp : p ∈ r.preferences) :
    m.Touched r st (Function.update st p.key (m.get p (st p.key)).2) :=
  fun _ hq => touchedCell_update (r.eq_of_key hp hq)

/-- Reads leave the rows alone. -/
theorem Touched.raw_value (h : m.Touched r st st') (hp : p ∈ r.preferences) :
    (st' p.key).raw_value = (st p.key).raw_value :=
  TouchedCell.raw_value (h p hp)

/-- Reads change nothing about what is held. -/
theorem Touched.holds_iff {Q : Option Json → Prop} (h : m.Touched r st st')
    (hp : p ∈ r.preferences) : m.Holds Q p (st' p.key) ↔ m.Holds Q p (st p.key) :=
  TouchedCell.holds_iff (h p hp)

/-- A preference is read from its own cell. -/
theorem getPreferenceValue_congr (h : st' p.key = st p.key) :
    (m.getPreferenceValue p st').1 = (m.getPreferenceValue p st).1 := by
  unfold getPreferenceValue
  rw [h]
  split <;> rfl

/-- A read of one preference leaves the cells of the others alone. -/
theorem getPreferenceValue_of_ne {key : String × String} (hkey : key ≠ p.key) :
    (m.getPreferenceValue p st).2 key = st key := by
  unfold getPreferenceValue
  split
  · rfl
  · exact Function.update_of_ne hkey _ _

theorem touched_getPreferenceValue (hp : p ∈ r.preferences) :
    m.Touched r st (m.getPreferenceValue p st).2 :=
  fun _ hq => touchedCell_getPreferenceValue (r.eq_of_key hp hq)

theorem touched_toRepresentation (hps : ∀ p ∈ ps, p ∈ r.preferences) :
    m.Touched r st (m.toRepresentation ps st).2 :=
  fun _ hq => touchedCell_toRepresentation fun p hp => r.eq_of_key (hps p hp) hq

theorem touched_initializePreferences
    (hps : ∀ p ∈ ps, p ∈ r.preferences) : m.Touched r st (m.initializePreferences ps st).2 := by
  induction ps generalizing st with
  | nil => exact .refl st
  | cons p ps ih =>
      obtain ⟨hp, hps⟩ := List.forall_mem_cons.mp hps
      exact (touched_update hp).trans (ih hps)

/-- What is held is held after any access. -/
theorem Holds.access {Q : Option Json → Prop} (hp : p ∈ r.preferences)
    (h : m.Holds Q p (st p.key)) (a : Access r) : m.Holds Q p ((m.access a st).2 p.key) := by
  cases a with
  | category slug =>
      exact ((touched_toRepresentation fun q hq => r.mem_of_mem_category hq).holds_iff hp).mpr h
  | preference q hq => exact ((touched_getPreferenceValue hq).holds_iff hp).mpr h
  | setting q hq => exact h
  | start => exact ((touched_initializePreferences fun q hq => hq).holds_iff hp).mpr h
  | evict q hq =>
      show m.Holds Q p (Function.update st q.key _ p.key)
      by_cases hkey : p.key = q.key
      · rw [hkey, Function.update_self, ← hkey]
        exact h.evict
      · rwa [Function.update_of_ne hkey]

/-- What is held is held after every run. -/
theorem Holds.after {Q : Option Json → Prop} (hp : p ∈ r.preferences)
    (h : m.Holds Q p (st p.key)) (accesses : List (Access r)) :
    m.Holds Q p (m.after st accesses p.key) := by
  induction accesses generalizing st with
  | nil => exact h
  | cons a accesses ih => exact ih (h.access hp a)

/-! ## All reads of one preference -/

section Reads

variable {Q : Option Json → Prop}

/-- An unencrypted preference that is not bound to a setting is read from its cell. -/
theorem getPreferenceValue_fst (hencrypted : p.encrypted = false) (hsetting : p.setting = none) :
    (m.getPreferenceValue p st).1 = (m.get p (st p.key)).1 := by
  simp [getPreferenceValue, hencrypted, hsetting]

/-- So is its cell after it. -/
theorem getPreferenceValue_snd (hsetting : p.setting = none) :
    (m.getPreferenceValue p st).2 = Function.update st p.key (m.get p (st p.key)).2 := by
  simp [getPreferenceValue, hsetting]

/-- The row of an unencrypted preference is shown as it is. -/
theorem settingValue_eq (hencrypted : p.encrypted = false) :
    m.settingValue p st = m.rowValue p (st p.key) := by
  unfold settingValue rowValue
  rw [hencrypted]
  rfl

/-- All reads of an unencrypted preference, in every run of accesses, give what has `Q` exactly if
its cell holds that. -/
theorem reads_iff_holds (hp : p ∈ r.preferences) (hencrypted : p.encrypted = false)
    (hsetting : p.setting = none) :
    (∀ accesses : List (Access r), Q (m.getPreferenceValue p (m.after st accesses)).1 ∧
      Q (m.settingValue p (m.after st accesses))) ↔ m.Holds Q p (st p.key) := by
  constructor
  · -- The cached text, the row and the text that is cached for it are each read in some run.
    intro h
    have hget : ∀ accesses : List (Access r), Q (m.get p (m.after st accesses p.key)).1 := by
      intro accesses
      rw [← getPreferenceValue_fst hencrypted hsetting]
      exact (h accesses).1
    have hevicted := hget [.evict p hp]
    have hagain := hget [.evict p hp, .preference p hp]
    simp only [after, access, List.foldl_cons, List.foldl_nil, getPreferenceValue_snd hsetting,
      Function.update_self] at hevicted hagain
    exact holds_of_gets (hget []) hevicted hagain
  · intro h accesses
    have hafter := h.after hp accesses
    rw [getPreferenceValue_fst hencrypted hsetting, settingValue_eq hencrypted]
    exact ⟨hafter.get, hafter.row⟩

end Reads

/-! ## Accesses that complete -/

section Completes

/-- The value can be read. -/
def Reads (value : Option Json) : Prop := value.isSome = true

/-- A preference can be read whenever its cell can and the setting it is bound to is set. -/
theorem isSome_getPreferenceValue (hsetting : p.setting ≠ some none)
    (h : m.Holds Reads p (st p.key)) : (m.getPreferenceValue p st).1.isSome = true := by
  unfold getPreferenceValue
  split
  · rename_i value hvalue
    cases value with
    | none => exact absurd hvalue hsetting
    | some value => rfl
  · have hget : (m.get p (st p.key)).1.isSome = true := h.get
    dsimp only
    split
    · rwa [Option.isSome_map]
    · exact hget

/-- The row of a preference can be shown whenever its cell can be read. -/
theorem isSome_settingValue (h : m.Holds Reads p (st p.key)) :
    (m.settingValue p st).isSome = true := by
  have hrow : (m.rowValue p (st p.key)).isSome = true := h.row
  unfold rowValue at hrow
  unfold settingValue
  cases hdb : m.fromDb p (st p.key).raw_value with
  | none => simp [hdb] at hrow
  | some raw_value =>
      rw [hdb, Option.bind_some] at hrow
      rw [Option.bind_some]
      split
      · rfl
      · exact hrow

/-- Preferences with keys of their own that can each be read are read together. -/
theorem isSome_toRepresentation_of_inj (hkeys : ∀ p ∈ ps, ∀ q ∈ ps, p.key = q.key → p = q)
    (hsetting : ∀ p ∈ ps, p.setting ≠ some none) (h : ∀ p ∈ ps, m.Holds Reads p (st p.key)) :
    (m.toRepresentation ps st).1.isSome = true := by
  induction ps generalizing st with
  | nil => rfl
  | cons p ps ih =>
      have hread := isSome_getPreferenceValue (hsetting p List.mem_cons_self)
        (h p List.mem_cons_self)
      have htouched : ∀ q ∈ ps, m.TouchedCell q (st q.key) ((m.getPreferenceValue p st).2 q.key) :=
        fun q hq => touchedCell_getPreferenceValue
          (hkeys p List.mem_cons_self q (List.mem_cons_of_mem _ hq))
      rw [toRepresentation]
      split
      · rename_i heq
        rw [heq] at hread
        cases hread
      · rename_i heq
        rw [heq] at htouched
        dsimp only
        rw [Option.isSome_map]
        refine ih (fun q hq q' hq' => ?_) (fun q hq => ?_) fun q hq => ?_
        · exact hkeys q (List.mem_cons_of_mem _ hq) q' (List.mem_cons_of_mem _ hq')
        · exact hsetting q (List.mem_cons_of_mem _ hq)
        · exact (htouched q hq).holds_iff.mpr (h q (List.mem_cons_of_mem _ hq))

/-- So are those of a registry. -/
theorem isSome_toRepresentation (hps : ∀ p ∈ ps, p ∈ r.preferences)
    (hsetting : ∀ p ∈ ps, p.setting ≠ some none) (h : ∀ p ∈ ps, m.Holds Reads p (st p.key)) :
    (m.toRepresentation ps st).1.isSome = true :=
  isSome_toRepresentation_of_inj (fun p hp q hq => r.eq_of_key (hps p hp) (hps q hq)) hsetting h

/-- The preferences found corrupt at the start are those whose cells cannot be read. -/
theorem initializePreferences_eq_nil_iff {ps : List Preference}
    (hkeys : (ps.map Preference.key).Nodup) :
    (m.initializePreferences ps st).1 = [] ↔
      ∀ p ∈ ps, (m.get p (st p.key)).1.isSome = true := by
  induction ps generalizing st with
  | nil => simp [initializePreferences]
  | cons p ps ih =>
      rw [List.map_cons, List.nodup_cons] at hkeys
      -- The reads do not interfere, since each is of another cell.
      have hother : ∀ q ∈ ps, Function.update st p.key (m.get p (st p.key)).2 q.key = st q.key := by
        intro q hq
        refine Function.update_of_ne (fun hkey => hkeys.1 ?_) _ _
        rw [← hkey]
        exact List.mem_map_of_mem hq
      have hrest : (∀ q ∈ ps,
          (m.get q (Function.update st p.key (m.get p (st p.key)).2 q.key)).1.isSome
          = true) ↔ ∀ q ∈ ps, (m.get q (st q.key)).1.isSome = true :=
        forall₂_congr fun q hq => by rw [hother q hq]
      rw [initializePreferences, List.forall_mem_cons, ← hrest, ← ih hkeys.2]
      dsimp only
      split
      · simp_all
      · simp_all

/-- The start leaves alone the cells of other preferences. -/
theorem initializePreferences_of_notMem {ps : List Preference} {key : String × String}
    (hkey : key ∉ ps.map Preference.key) : (m.initializePreferences ps st).2 key = st key := by
  induction ps generalizing st with
  | nil => rfl
  | cons p ps ih =>
      rw [List.map_cons, List.mem_cons, not_or] at hkey
      exact (ih hkey.2).trans (Function.update_of_ne hkey.1 _ _)

/-- The start reads each cell once. -/
theorem initializePreferences_of_mem {ps : List Preference}
    (hkeys : (ps.map Preference.key).Nodup) (hp : p ∈ ps) :
    (m.initializePreferences ps st).2 p.key = (m.get p (st p.key)).2 := by
  induction ps generalizing st with
  | nil => cases hp
  | cons q ps ih =>
      rw [List.map_cons, List.nodup_cons] at hkeys
      rcases List.mem_cons.mp hp with rfl | hp
      · exact (initializePreferences_of_notMem hkeys.1).trans (Function.update_self _ _ _)
      · have hother : p.key ≠ q.key := by
          intro hkey
          rw [← hkey] at hkeys
          exact hkeys.1 (List.mem_map_of_mem hp)
        refine (ih hkeys.2 hp).trans ?_
        rw [Function.update_of_ne hother]

/-- Every access completes, in every run, exactly if every cell can be read and every setting that a
preference is bound to is set. -/
theorem completes_iff :
    (∀ (accesses : List (Access r)) (a : Access r),
      (m.access a (m.after st accesses)).1 = true) ↔
      ∀ p ∈ r.preferences, m.Holds Reads p (st p.key) ∧ p.setting ≠ some none := by
  constructor
  · intro h p hp
    -- The start reads every cell, and so it does after the cell's entry is dropped.
    have hget : ∀ accesses : List (Access r),
        (m.get p (m.after st accesses p.key)).1.isSome = true := by
      intro accesses
      have hstart := h accesses .start
      simp only [access, List.isEmpty_iff] at hstart
      exact (initializePreferences_eq_nil_iff r.nodup_keys).mp hstart p hp
    have hevicted := hget [.evict p hp]
    have hagain := hget [.evict p hp, .start]
    simp only [after, access, List.foldl_cons, List.foldl_nil, Function.update_self,
      initializePreferences_of_mem r.nodup_keys hp] at hevicted hagain
    refine ⟨holds_of_gets (hget []) hevicted hagain, fun hsetting => ?_⟩
    have hread := h [] (.preference p hp)
    simp [access, getPreferenceValue, hsetting] at hread
  · intro h accesses a
    have hafter : ∀ p ∈ r.preferences, m.Holds Reads p (m.after st accesses p.key) :=
      fun p hp => (h p hp).1.after hp accesses
    cases a with
    | category slug =>
        exact isSome_toRepresentation (fun p hp => r.mem_of_mem_category hp)
          (fun p hp => (h p (r.mem_of_mem_category hp)).2)
          fun p hp => hafter p (r.mem_of_mem_category hp)
    | preference p hp => exact isSome_getPreferenceValue (h p hp).2 (hafter p hp)
    | setting p hp => exact isSome_settingValue (hafter p hp)
    | start =>
        simp only [access, List.isEmpty_iff]
        exact (initializePreferences_eq_nil_iff r.nodup_keys).mpr fun p hp => (hafter p hp).get
    | evict p hp => rfl

end Completes

end Manager

end AapGateway.Preferences
