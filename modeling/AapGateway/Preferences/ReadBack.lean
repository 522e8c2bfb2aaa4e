import AapGateway.Preferences.AtomicUpdate

/-!
# Reading back a submitted setting

A value that is accepted for an unencrypted preference is not stored as it was submitted: it is what
the serializer makes of `str` of it, with double quotes for single ones. It is read through the
decryption helper, and a value that is equal to the current one, or that is the mask, is not stored
at all. The hook of another preference may store a text in its place. This module says of which
values the submitted one is read back.

## Main definitions

* `TextType`: the preferences of strings and those of JSON values;
* `Python.Gives`: a read gives a value;
* `SaveEnvironment.ReadsBack`: what must be so of a submitted value.

## Main results

* `SaveEnvironment.readsBack_iff`: after an accepted change every read of a preference gives the
  submitted value, in every run, exactly if that value reads back.
-/

namespace AapGateway.Preferences

open SecretKey (encryptedMarker)

/-- The types of preferences that are written as text. -/
inductive TextType where
  /-- `StringPreference`, `LongStringPreference` and the classes under them. -/
  | string
  /-- `StringListPreference` and `JSONPreference`. -/
  | json
  deriving DecidableEq, Repr

/-- The serializer of a type. -/
def TextType.serializer (py : Python) : TextType → Serializer
  | .string => stringSerializer
  | .json => jsonSerializer py

/-- What is read is the value: the same string, or the same JSON value. -/
def Gives (py : Python) (v : Json) (value : Option Json) : Prop :=
  ∃ u, value = some u ∧ py.eqv false v u = true

/-- A string is the same only as itself. -/
theorem gives_str_iff {py : Python} {v : Json} {u : String} :
    Gives py v (some (.str u)) ↔ v = .str u := by
  unfold Gives
  constructor
  · rintro ⟨_, hu, heqv⟩
    cases hu
    cases v with
    | str s => rw [of_decide_eq_true heqv]
    | _ => cases heqv
  · rintro rfl
    exact ⟨_, rfl, decide_eq_true rfl⟩

namespace Manager

variable {m : Manager} {p : Preference} {py : Python} {v : Json}

/-- A string that the decryption helper does not recognise is read as it is. -/
theorem decryptString_of_not_recognises {e : Encryption} {s : String}
    (h : e.recognises s = false) : e.decryptString s = some s := by
  rw [Encryption.decryptString, h, if_neg Bool.false_ne_true]

/-- A recognised string is longer than what is encrypted in it, so that a string which is read in
place of one of its length was not recognised. -/
theorem recognises_eq_false_of_decryptString {e : Encryption}
    (hshort : ∀ s t, e.decryptRecognised s = some t → t.toList.length < s.toList.length)
    {s t : String} (h : e.decryptString s = some t) (hlength : t.toList.length = s.toList.length) :
    e.recognises s = false ∧ t = s := by
  unfold Encryption.decryptString at h
  split at h
  · exact absurd (hshort s t h) (by omega)
  · rename_i hnot
    exact ⟨eq_false_of_ne_true hnot, (Option.some.inj h).symm⟩

/-! ## Strings -/

/-- The row of a string preference. -/
theorem rowValue_string (hp : p.serializer = stringSerializer) {c : Cell} {text : String}
    (hc : c.raw_value = some text) :
    m.rowValue p c = (m.encryption.decryptString text).map .str := by
  unfold rowValue fromDb
  rw [hp, hc]
  show ((m.encryption.decryptString text).bind fun s => some (some s)).bind _ = _
  cases m.encryption.decryptString text <;> rfl

/-- A string is read back from its cell exactly if it has no single quotes, is not recognised as an
encrypted one, and is not the text that is cached in place of an empty one. -/
theorem gives_string_iff (hp : p.IsPlainString)
    (hshort : ∀ s t, m.encryption.decryptRecognised s = some t →
      t.toList.length < s.toList.length)
    {s : String} :
    m.Holds (Gives py (.str s)) p
      { raw_value := some (Python.doubleQuotes s)
        cached := some (m.toCache p (some (Python.doubleQuotes s))) } ↔
      '\'' ∉ s.toList ∧ m.encryption.recognises s = false ∧ s ≠ m.noneValue := by
  constructor
  · intro h
    -- The row gives a string of the length of the text, which was not decrypted then.
    obtain ⟨u, hu, heqv⟩ := h.row
    rw [rowValue_string hp.serializer rfl] at hu
    obtain ⟨loaded, hloaded, rfl⟩ := Option.map_eq_some_iff.mp hu
    obtain rfl : s = loaded := Json.str.inj (gives_str_iff.mp ⟨_, rfl, heqv⟩)
    obtain ⟨hnot, hsame⟩ := recognises_eq_false_of_decryptString hshort hloaded
      (length_doubleQuotes s).symm
    rw [← hsame] at hnot
    refine ⟨doubleQuotes_eq_self_iff.mp hsame.symm, hnot, fun hnone => ?_⟩
    -- The cached text of it is read as the empty string.
    have hcached := h.cached _ rfl
    rw [fromCache_toCache_string hp, ← hsame, if_pos (Or.inr hnone)] at hcached
    obtain rfl := Json.str.inj (gives_str_iff.mp hcached)
    exact m.noneValue_ne hnone.symm
  · rintro ⟨hsingle, hnot, hnone⟩
    have hloaded := decryptString_of_not_recognises hnot
    rw [doubleQuotes_eq_self_iff.mpr hsingle]
    have hcache : Gives py (.str s) (m.fromCache p (m.toCache p (some s))) := by
      rw [fromCache_toCache_string hp]
      split
      · rename_i hempty
        rw [hempty.resolve_right hnone]
        exact gives_str_iff.mpr rfl
      · rw [hloaded]
        exact gives_str_iff.mpr rfl
    refine ⟨fun text htext => ?_, ?_, fun raw_value hdb => ?_⟩
    · cases htext
      exact hcache
    · rw [rowValue_string hp.serializer rfl, hloaded]
      exact gives_str_iff.mpr rfl
    · rw [fromDb_string hp, hloaded] at hdb
      cases hdb
      exact hcache

/-! ## JSON values -/

/-- The text of a JSON value does not look encrypted. -/
theorem decryptString_dumps (e : Encryption) (w : Json) :
    e.decryptString (Json.dumps w) = some (Json.dumps w) := by
  refine decryptString_of_not_recognises ?_
  by_contra hrecognised
  -- The marker starts with a character that no JSON value starts with.
  have hmarker := e.startsWith_of_recognises _ (eq_true_of_ne_false hrecognised)
  obtain ⟨text, htext⟩ : ∃ text, (Json.dumps w).toList = '$' :: text := by
    obtain ⟨text, htext⟩ := List.isPrefixOf_iff_prefix.mp hmarker
    exact ⟨_, htext.symm⟩
  have hnone := Json.loads_of_head htext (by decide) (by decide)
  rw [Json.loads_dumps] at hnone
  cases hnone

/-- The cached text of a JSON value is read as it. -/
theorem fromCache_toCache_json (hencrypted : p.encrypted = false)
    (hserializer : p.serializer = jsonSerializer py) {w : Json} (hw : py.IsValue w) :
    m.fromCache p (m.toCache p (some (Json.dumps w))) = some w := by
  -- The text is neither empty nor the one that is cached in place of an empty one.
  have hempty : Json.dumps w ≠ "" := by
    intro hempty
    have hloads := Json.loads_dumps w
    rw [hempty, show Json.loads "" = none by decide] at hloads
    cases hloads
  have hnone : Json.dumps w ≠ m.noneValue := by
    intro hnone
    have hloads := Json.loads_dumps w
    rw [hnone, m.loads_noneValue] at hloads
    cases hloads
  unfold fromCache toCache
  simp only [hencrypted, hserializer, Bool.false_eq_true, if_false, hempty, hnone]
  rw [decryptString_dumps]
  exact jsonToPython_dumps py hw

/-- How the row of a JSON value is loaded. A string is decrypted. -/
theorem fromDb_dumps (hserializer : p.serializer = jsonSerializer py) {w : Json}
    (hw : py.IsValue w) :
    m.fromDb p (some (Json.dumps w)) =
      match w with
      | .str u => (m.encryption.decryptString u).map fun loaded => some (Json.dumps (.str loaded))
      | _ => some (some (Json.dumps w)) := by
  unfold fromDb
  rw [hserializer]
  show (jsonToPython py (some (Json.dumps w))).bind _ = _
  rw [jsonToPython_dumps py hw, Option.bind_some]
  cases w with
  | str u => cases hloaded : m.encryption.decryptString u <;> simp [hloaded, jsonSerializer]
  | _ => rfl

/-- Every read of the cell of a JSON value that is no string gives that value. -/
theorem holds_dumps_iff (hencrypted : p.encrypted = false)
    (hserializer : p.serializer = jsonSerializer py) {w : Json} (hw : py.IsValue w)
    (hstr : ∀ s, w ≠ .str s) {Q : Option Json → Prop} :
    m.Holds Q p
      { raw_value := some (Json.dumps w), cached := some (m.toCache p (some (Json.dumps w))) } ↔
      Q (some w) := by
  have hdb : m.fromDb p (some (Json.dumps w)) = some (some (Json.dumps w)) := by
    rw [fromDb_dumps hserializer hw]
    cases w with
    | str u => exact absurd rfl (hstr u)
    | _ => rfl
  have hcache := fromCache_toCache_json (m := m) hencrypted hserializer hw
  constructor
  · intro h
    have hcached := h.cached _ rfl
    rwa [hcache] at hcached
  · intro h
    refine ⟨fun text htext => ?_, ?_, fun raw_value hraw => ?_⟩
    · cases htext
      rwa [hcache]
    · rw [rowValue, hdb, hserializer, Option.bind_some]
      show Q (jsonToPython py (some (Json.dumps w)))
      rwa [jsonToPython_dumps py hw]
    · rw [hdb] at hraw
      cases hraw
      rwa [hcache]

/-- A JSON value is read back from the cell of what is stored for it exactly if that is the value
and, of a string, it is not recognised as an encrypted one. -/
theorem gives_json_iff (hencrypted : p.encrypted = false)
    (hserializer : p.serializer = jsonSerializer py)
    (hshort : ∀ s t, m.encryption.decryptRecognised s = some t →
      t.toList.length < s.toList.length)
    {w : Json} (hw : py.IsValue w) :
    m.Holds (Gives py v) p
      { raw_value := some (Json.dumps w), cached := some (m.toCache p (some (Json.dumps w))) } ↔
      py.eqv false v w = true ∧ ∀ s, v = .str s → m.encryption.recognises s = false := by
  constructor
  -- What is cached gives the equality, and what stands in the row that the text is not recognised.
  · intro h
    have hcached := h.cached _ rfl
    rw [fromCache_toCache_json hencrypted hserializer hw] at hcached
    obtain ⟨_, hu, heqv⟩ := hcached
    cases hu
    refine ⟨heqv, ?_⟩
    rintro s rfl
    -- Only a string equals a string.
    obtain rfl : w = .str s := by
      cases w <;> simp_all [Python.eqv]
    obtain ⟨u, hu, hrow⟩ := h.row
    rw [rowValue, fromDb_dumps hserializer hw] at hu
    obtain ⟨raw_value, hraw, hu⟩ := Option.bind_eq_some_iff.mp hu
    obtain ⟨loaded, hloaded, rfl⟩ := Option.map_eq_some_iff.mp hraw
    rw [hserializer] at hu
    rw [show (jsonSerializer py).toPython = jsonToPython py from rfl,
      jsonToPython_dumps py (py.isValue_str loaded)] at hu
    cases hu
    obtain rfl : s = loaded := Json.str.inj (gives_str_iff.mp ⟨_, rfl, hrow⟩)
    exact (recognises_eq_false_of_decryptString hshort hloaded rfl).1
  · rintro ⟨heqv, hnot⟩
    by_cases hstr : ∃ u, w = .str u
    · -- A string that is not recognised is loaded as it is.
      obtain ⟨u, rfl⟩ := hstr
      have hdb : m.fromDb p (some (Json.dumps (.str u))) = some (some (Json.dumps (.str u))) := by
        rw [fromDb_dumps hserializer hw]
        dsimp only
        rw [decryptString_of_not_recognises (hnot u (gives_str_iff.mp ⟨_, rfl, heqv⟩))]
        rfl
      have hcache : Gives py v (m.fromCache p (m.toCache p (some (Json.dumps (.str u))))) := by
        rw [fromCache_toCache_json hencrypted hserializer hw]
        exact ⟨_, rfl, heqv⟩
      refine ⟨fun text htext => ?_, ?_, fun raw_value hraw => ?_⟩
      · cases htext
        exact hcache
      · rw [rowValue, hdb, hserializer]
        exact ⟨_, jsonToPython_dumps py hw, heqv⟩
      · rw [hdb] at hraw
        cases hraw
        exact hcache
    -- What is no string is written in braces, brackets, digits or a word, which is never
    -- recognised.
    · rw [not_exists] at hstr
      exact (holds_dumps_iff hencrypted hserializer hw hstr).mpr ⟨w, rfl, heqv⟩

end Manager

/-! ## Accepted values -/

namespace Environment

variable (env : Environment) {data : List (String × Json)} {st : Store} {p : Preference} {v : Json}
  {key : String}

/-- A submitted value that is passed over: nothing is stored for it. -/
def PassedOver (st : Store) (p : Preference) (v : Json) : Prop :=
  ∃ current_value, (env.manager.getPreferenceValue p st).1 = some current_value ∧
    env.passesOver current_value v = true

/-- A value of which what is stored is read as it. -/
def Keeps : TextType → Json → Prop
  | .string, v => ∃ s, v = .str s ∧ '\'' ∉ s.toList ∧
      env.manager.encryption.recognises s = false ∧ s ≠ env.manager.noneValue
  | .json, v => Survives env.py v ∧
      ∀ s, v = .str s → env.manager.encryption.recognises s = false

variable {env}

/-- The value of a preference that is named in an accepted `dict` is passed over if nothing is
stored for it. -/
theorem passedOver_of_fate_none (hread : (env.manager.getPreferenceValue p st).1.isSome = true)
    (hfind : data.find? (·.1 = p.name) = some (key, v)) (hfate : env.fate data st p = none) :
    env.PassedOver st p v := by
  obtain ⟨current_value, hcurrent⟩ := Option.isSome_iff_exists.mp hread
  rw [fate, hcurrent, Option.bind_some] at hfate
  exact ⟨current_value, hcurrent, passesOver_of_processField hfate hfind⟩

/-- What is stored for a preference is what its serializer makes of the submitted value, which was
not passed over. -/
theorem of_fate_ok {save : Save} (hfind : data.find? (·.1 = p.name) = some (key, v))
    (hfate : env.fate data st p = some (.ok save)) :
    ¬env.PassedOver st p v ∧
      p.serializer.toPython (converterArg env.py v) = some save.value := by
  obtain ⟨current_value, hcurrent, hprocess⟩ := Option.bind_eq_some_iff.mp hfate
  obtain ⟨-, -, key', new_value, hfind', hkept, hvalid⟩ := of_processField_ok hprocess
  obtain ⟨rfl, rfl⟩ := Prod.mk.inj (Option.some.inj (hfind.symm.trans hfind'))
  refine ⟨?_, toPython_of_serializeAndValidate hvalid⟩
  rintro ⟨current_value', hcurrent', hpassed⟩
  obtain rfl := Option.some.inj (hcurrent.symm.trans hcurrent')
  rw [hpassed] at hkept
  cases hkept

/-- A text that is written for a submitted value is read as it exactly if it is kept. -/
theorem holds_cellOf_iff_keeps {type : TextType} (hencrypted : p.encrypted = false)
    (hserializer : p.serializer = type.serializer env.py)
    (hshort : ∀ s t, env.manager.encryption.decryptRecognised s = some t →
      t.toList.length < s.toList.length)
    (hv : env.py.IsValue v) {value : Json} {text : String}
    (hvalue : p.serializer.toPython (converterArg env.py v) = some value)
    (htext : env.manager.textFor p value = some text) :
    env.manager.Holds (Gives env.py v) p (env.manager.cellOf (p, text)) ↔ env.Keeps type v := by
  rw [Manager.textFor_of_unencrypted hencrypted] at htext
  cases type with
  | string =>
      have hp : p.IsPlainString := ⟨hencrypted, hserializer⟩
      rw [hserializer] at hvalue htext
      cases hvalue
      cases htext
      constructor
      · intro h
        -- Whatever the row of a string preference gives is a string.
        obtain ⟨u, hu, heqv⟩ := h.row
        rw [Manager.rowValue_string hp.serializer rfl] at hu
        obtain ⟨s, -, rfl⟩ := Option.map_eq_some_iff.mp hu
        obtain rfl : v = .str s := gives_str_iff.mp ⟨_, rfl, heqv⟩
        exact ⟨s, rfl, (Manager.gives_string_iff hp hshort).mp h⟩
      · rintro ⟨s, rfl, hkept⟩
        exact (Manager.gives_string_iff hp hshort).mpr hkept
  | json =>
      rw [hserializer] at hvalue htext
      cases htext
      have hw : env.py.IsValue value := isValue_of_jsonToPython env.py hvalue
      rw [Manager.cellOf, Manager.gives_json_iff hencrypted hserializer hshort hw,
        toPython_converterArg_iff env.py false hv hvalue]
      rfl

end Environment

namespace SaveEnvironment

variable (env : SaveEnvironment) {faults : Faults} {r : Registry} {data : List (String × Json)}
  {st st' : Store} {p : Preference} {v : Json} {key : String}

/-- A submitted value that is read back. The last text that a hook stores for the preference must
be of that value. Where no hook stores one, and the value is passed over, every read must give it
already; otherwise it must be kept by what is stored. -/
def ReadsBack (r : Registry) (category_slug : Option String) (data : List (String × Json))
    (st : Store) (p : Preference) (type : TextType) (v : Json) : Prop :=
  match (env.hookWrites p st (env.changes r category_slug data st)).getLast? with
  | some w => env.manager.Holds (Gives env.py v) p (env.manager.cellOf w)
  | none =>
    (env.PassedOver st p v → env.manager.Holds (Gives env.py v) p (st p.key)) ∧
      (¬env.PassedOver st p v → env.Keeps type v)

variable {env}

/-- After an accepted change, every read of an unencrypted preference of strings or JSON values that
may be written gives the submitted value, in every run, exactly if that value reads back. -/
theorem readsBack_iff {slug : Option String} {return_data : Option (List (String × Json))}
    {type : TextType}
    (hshort : ∀ s t, env.manager.encryption.decryptRecognised s = some t →
      t.toList.length < s.toList.length)
    (hp : p ∈ r.preferences) (hencrypted : p.encrypted = false) (hwritable : p.read_only = false)
    (hserializer : p.serializer = type.serializer env.py)
    (hfind : data.find? (·.1 = p.name) = some (key, v)) (hv : env.py.IsValue v)
    (h : env.validateAndSave faults r slug data st = (.saved return_data, st')) :
    (∀ accesses : List (Access r),
      Gives env.py v (env.manager.getPreferenceValue p (env.manager.after st' accesses)).1 ∧
        Gives env.py v (env.manager.settingValue p (env.manager.after st' accesses))) ↔
      env.ReadsBack r slug data st p type v := by
  obtain ⟨st₁, saved, htouched, hreads, hfailures, hnames, hsaves, hlast⟩ := of_saved h
  rw [Manager.reads_iff_holds hp hencrypted (p.setting_eq_none hwritable)]
  -- The category is read once more after the values are saved, which changes no cell.
  have hreread : env.manager.Touched r saved
      (env.manager.toRepresentation (r.category slug) saved).2 :=
    Manager.touched_toRepresentation fun q hq => r.mem_of_mem_category hq
  rw [hlast] at hreread
  rw [hreread.holds_iff hp]
  have hmem : p ∈ r.category slug :=
    Environment.mem_of_named (fun q hq => r.mem_of_mem_category hq) hnames hp hfind
  have hrows : ∀ key ∈ (env.changes r slug data st).map (·.preference.key),
      (st₁ key).raw_value = (st key).raw_value := by
    intro key hkey
    obtain ⟨save, hsave, rfl⟩ := List.mem_map.mp hkey
    exact htouched.raw_value
      (r.mem_of_mem_category (Environment.mem_category_of_changes save hsave))
  have hleft := left_of_saveAll hsaves p
  unfold ReadsBack
  rw [← hookWrites_congr hrows p]
  cases hleft with
  | hook w hlast hc => rw [hlast, hc]
  | own save text hnone hsave hkey htext hc =>
      obtain ⟨q, hq, hpending⟩ := List.mem_filterMap.mp hsave
      have hfate := Environment.pending_eq_some_iff.mp hpending
      obtain rfl : save.preference = q := Environment.preference_of_fate hfate
      obtain rfl := r.eq_of_key (r.mem_of_mem_category hq) hp hkey
      obtain ⟨hnot, hvalue⟩ := Environment.of_fate_ok hfind hfate
      rw [hnone, hc,
        Environment.holds_cellOf_iff_keeps hencrypted hserializer hshort hv hvalue htext]
      exact ⟨fun hkept => ⟨fun hpassed => absurd hpassed hnot, fun _ => hkept⟩,
        fun hback => hback.2 hnot⟩
  | kept hnone hsaves hc =>
      have hfate : env.fate data st p = none := by
        cases hfate : env.fate data st p with
        | none => rfl
        | some result =>
            cases result with
            | error err => exact absurd hfate (hfailures p hmem err)
            | ok save =>
                have hpref := Environment.preference_of_fate hfate
                exact absurd (congrArg Preference.key hpref) (hsaves save
                  (List.mem_filterMap.mpr ⟨p, hmem, Environment.pending_eq_some_iff.mpr hfate⟩))
      have hpassed := Environment.passedOver_of_fate_none (hreads p hmem) hfind hfate
      rw [hnone, hc, htouched.holds_iff hp]
      exact ⟨fun hold => ⟨fun _ => hold, fun hnot => absurd hpassed hnot⟩,
        fun hback => hback.1 hpassed⟩

end SaveEnvironment

/-! ## A hook, and a single quote -/

/-- A preference of drinks. -/
def soda : Preference :=
  { subscriptionsUsername with section_name := "general", name := "soda" }

/-- The one that its hook stores the name of the drink in, in capital letters. -/
def sodaButUppercase : Preference := { soda with name := "soda_but_uppercase" }

/-- The registry with these two, and a user name. -/
def sodaRegistry : Registry where
  preferences := [soda, sodaButUppercase, { subscriptionsUsername with section_name := "general" }]
  nodup_names := by decide

/-- Their environment. -/
def sodaEnvironment : SaveEnvironment :=
  { plainEnvironment with
    onUpdate := fun p =>
      if p.name = "soda" then
        some fun _ new_value =>
          match new_value with
          | .str s =>
            { stored := [(sodaButUppercase, String.ofList (s.toList.map Char.toUpper))]
              returns := true }
          | _ => { stored := [], returns := false }
      else none }

/-- A change of these settings, all of which are empty. -/
def setGeneral (data : List (String × Json)) : Outcome × Store :=
  sodaEnvironment.validateAndSave .none sodaRegistry (some "general") data noUsername

/-- A drink is accepted and read back, though its hook stores a text for another preference. -/
theorem readsBack_orange :
    let accesses : List (Access sodaRegistry) := [.category none, .start]
    Gives asciiPython (.str "orange")
        (unusedKey.getPreferenceValue soda
          (unusedKey.after (setGeneral [("soda", .str "orange")]).2 accesses)).1 ∧
      Gives asciiPython (.str "orange")
        (unusedKey.settingValue soda
          (unusedKey.after (setGeneral [("soda", .str "orange")]).2 accesses)) := by
  have hsaved : setGeneral [("soda", .str "orange")] = (.saved (some
      [("soda", .str "orange"), ("soda_but_uppercase", .str "ORANGE"),
        ("SUBSCRIPTIONS_USERNAME", .str "")]), (setGeneral [("soda", .str "orange")]).2) :=
    Prod.ext rfl rfl
  have hshort : ∀ s t, sodaEnvironment.manager.encryption.decryptRecognised s = some t →
      t.toList.length < s.toList.length := fun s t h => by cases h
  have hserializer : soda.serializer = TextType.string.serializer asciiPython := rfl
  have hmem : soda ∈ sodaRegistry.preferences := List.mem_cons_self
  refine (SaveEnvironment.readsBack_iff hshort hmem rfl rfl hserializer rfl
    (asciiPython.isValue_str "orange") hsaved).mpr ?_ [.category none, .start]
  refine ⟨?_, fun _ => ⟨"orange", rfl, by decide, rfl, by decide⟩⟩
  rintro ⟨current_value, hcurrent, hpassed⟩
  cases hcurrent
  cases hpassed

/-- A user name with a single quote is accepted, and what is read then has a double one in its
place. So is a drink in capital letters that is submitted as it is, beside the drink that its hook
stores another one for. -/
theorem not_readsBack_apostrophe :
    (∀ p ∈ sodaRegistry.preferences, p.encrypted = false ∧ p.read_only = false ∧
      p.serializer = TextType.string.serializer asciiPython) ∧
    ((setGeneral [("SUBSCRIPTIONS_USERNAME", .str "it's")]).1 = .saved (some
        [("soda", .str ""), ("soda_but_uppercase", .str ""),
          ("SUBSCRIPTIONS_USERNAME", .str "it\"s")]) ∧
      ¬Gives asciiPython (.str "it's") (some (.str "it\"s"))) ∧
    (setGeneral [("soda", .str "orange"), ("soda_but_uppercase", .str "")]).1 = .saved (some
        [("soda", .str "orange"), ("soda_but_uppercase", .str "ORANGE"),
          ("SUBSCRIPTIONS_USERNAME", .str "")]) ∧
      ¬Gives asciiPython (.str "") (some (.str "ORANGE")) := by
  refine ⟨?_, ⟨rfl, ?_⟩, rfl, ?_⟩
  · simp [sodaRegistry, soda, sodaButUppercase, subscriptionsUsername, TextType.serializer]
  · rw [gives_str_iff]
    decide
  · rw [gives_str_iff]
    decide

end AapGateway.Preferences
