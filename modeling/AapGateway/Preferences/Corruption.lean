import AapGateway.Preferences.Settings

/-!
# Settings that cannot be read back

A string that is saved for an unencrypted preference is stored as it is. What is read later is
decrypted if it looks encrypted, and again when it is taken from the cache, so that a string which
the decryption helper recognises but which was not written under the key of the gateway is accepted
and then cannot be read: not by itself, not with its category, and not when the gateway starts.

## Main definitions

* `Manager.Readable`: the texts that can be read again;
* `Environment.savedText`: the text that is stored for a preference, if any.

## Main results

* `Environment.completes_iff_readable`: after an accepted change of unencrypted string preferences
  every access completes, in every run, exactly if the stored texts are readable.
-/

namespace AapGateway.Preferences

open SecretKey (encryptedMarker)

/-- An unencrypted preference with the serializer of strings. -/
structure Preference.IsPlainString (p : Preference) : Prop where
  encrypted : p.encrypted = false
  serializer : p.serializer = stringSerializer

/-- A text that can be read from a row and, as it is loaded from there, from the cache: decryption
does not fail, and neither does decryption of the result. -/
def Manager.Readable (m : Manager) (text : String) : Prop :=
  ∃ loaded, m.encryption.decryptString text = some loaded ∧
    (loaded = m.noneValue ∨ (m.encryption.decryptString loaded).isSome = true)

/-- The text that is stored for a string preference: that of the submitted value, unless it is equal
to the current value or it is the mask. -/
def Environment.savedText (env : Environment) (data : List (String × Json)) (st : Store)
    (p : Preference) : Option String :=
  match data.find? (·.1 = p.name), (env.manager.getPreferenceValue p st).1 with
  | some (_, new_value), some current_value =>
    if env.passesOver current_value new_value then none
    else some ((converterArg env.py new_value).getD "")
  | _, _ => none

namespace Manager

variable {m : Manager} {p : Preference} {text : String}

/-- The empty string is not decrypted. -/
theorem decryptString_empty (e : Encryption) : e.decryptString "" = some "" := by
  refine if_neg fun hrecognised => ?_
  exact absurd (e.startsWith_of_recognises "" hrecognised) (by decide)

/-- How the row of a string preference is loaded. -/
theorem fromDb_string (hp : p.IsPlainString) :
    m.fromDb p (some text) = (m.encryption.decryptString text).map some := by
  unfold fromDb
  rw [hp.serializer]
  show ((m.encryption.decryptString text).bind fun s => some (some s)) = _
  cases m.encryption.decryptString text <;> rfl

/-- How the cached text of a string preference is read. -/
theorem fromCache_toCache_string (hp : p.IsPlainString) :
    m.fromCache p (m.toCache p (some text)) =
      if text = "" ∨ text = m.noneValue then some (.str "")
      else (m.encryption.decryptString text).map .str := by
  unfold fromCache toCache
  rw [hp.encrypted, hp.serializer]
  dsimp only
  by_cases hempty : text = ""
  · simp [hempty, stringSerializer]
  · by_cases hnone : text = m.noneValue
    · simp [hnone, stringSerializer]
    · simp only [hempty, hnone, if_false, or_self, Bool.false_eq_true, if_false, stringSerializer]
      cases m.encryption.decryptString text <;> rfl

/-- The cell of a string preference after a value is saved. -/
theorem updateDbPref_string (hp : p.IsPlainString) {value : Json} {c c' : Cell}
    (h : m.updateDbPref p value c = some c') :
    ∃ text : String, value = .str text ∧
      c' = { raw_value := some text, cached := some (m.toCache p (some text)) } := by
  unfold updateDbPref at h
  rw [hp.encrypted, hp.serializer] at h
  obtain ⟨loaded, -, h⟩ := Option.bind_eq_some_iff.mp h
  obtain ⟨raw_value, hraw, h⟩ := Option.bind_eq_some_iff.mp h
  cases value with
  | str text =>
      cases hraw
      cases h
      exact ⟨_, rfl, rfl⟩
  | _ => cases hraw

/-- A cell with a saved text can be read exactly if the text is readable. -/
theorem holds_saved_iff (hp : p.IsPlainString) :
    m.Holds Reads p { raw_value := some text, cached := some (m.toCache p (some text)) } ↔
      m.Readable text := by
  constructor
  · intro h
    -- The row is loaded, and what is cached for it then is read.
    have hrow : (m.rowValue p ⟨some text, some (m.toCache p (some text))⟩).isSome = true := h.row
    unfold rowValue at hrow
    rw [fromDb_string hp] at hrow
    cases hloaded : m.encryption.decryptString text with
    | none => simp [hloaded] at hrow
    | some loaded =>
        have hrefilled : (m.fromCache p (m.toCache p (some loaded))).isSome = true :=
          h.refilled (some loaded) (by rw [fromDb_string hp, hloaded]; rfl)
        rw [fromCache_toCache_string hp] at hrefilled
        refine ⟨loaded, hloaded, ?_⟩
        split at hrefilled
        · rename_i hempty
          rcases hempty with rfl | hnone
          · exact Or.inr (by rw [decryptString_empty]; rfl)
          · exact Or.inl hnone
        · rw [Option.isSome_map] at hrefilled
          exact Or.inr hrefilled
  · rintro ⟨loaded, hloaded, hagain⟩
    refine ⟨fun cached hcached => ?_, ?_, fun raw_value hdb => ?_⟩
    · cases hcached
      rw [fromCache_toCache_string hp]
      split
      · rfl
      · rw [hloaded]
        rfl
    · unfold rowValue
      rw [fromDb_string hp, hloaded, hp.serializer]
      rfl
    · rw [fromDb_string hp, hloaded] at hdb
      cases hdb
      rw [fromCache_toCache_string hp]
      split
      · rfl
      · rename_i hnone
        rw [not_or] at hnone
        rw [Reads, Option.isSome_map]
        exact hagain.resolve_left hnone.2

end Manager

namespace Environment

variable {env : Environment} {r : Registry} {data : List (String × Json)} {st st' : Store}
  {p : Preference}

/-- Nothing is stored for a preference that is passed over. -/
theorem savedText_of_fate_none (hfate : env.fate data st p = none) :
    env.savedText data st p = none := by
  unfold savedText
  split
  · rename_i key new_value current_value hfind hcurrent
    rw [fate, hcurrent, Option.bind_some] at hfate
    rw [passesOver_of_processField hfate hfind, if_pos rfl]
  · rfl

/-- What is saved for a string preference is the text that is stored. -/
theorem savedText_of_fate_ok (hp : p.IsPlainString) {save : Save}
    (hfate : env.fate data st p = some (.ok save)) :
    ∃ text, save.value = .str text ∧ env.savedText data st p = some text := by
  obtain ⟨current_value, hcurrent, hprocess⟩ := Option.bind_eq_some_iff.mp hfate
  obtain ⟨-, -, key, new_value, hfind, hkept, hvalid⟩ := of_processField_ok hprocess
  have hvalue := toPython_of_serializeAndValidate hvalid
  rw [hp.serializer] at hvalue
  refine ⟨_, (Option.some.inj hvalue).symm, ?_⟩
  rw [savedText, hfind, hcurrent]
  dsimp only
  rw [hkept, if_neg Bool.false_ne_true]

/-- After an accepted change, the cell of a preference can be read exactly if the text stored for
it, if any, is readable. -/
theorem Changed.holds_iff {c : Cell} (hnamed : env.fate data st p ≠ none → p.IsPlainString)
    (hbefore : env.manager.Holds Manager.Reads p (st p.key)) (h : Changed env data st p c) :
    env.manager.Holds Manager.Reads p c ↔
      ∀ text, env.savedText data st p = some text → env.manager.Readable text := by
  cases h with
  | kept hc hfate =>
      have hholds : env.manager.Holds Manager.Reads p c := by
        rcases hc with rfl | rfl
        · exact hbefore
        · exact Manager.holds_get_iff.mpr hbefore
      rw [savedText_of_fate_none hfate]
      exact iff_of_true hholds fun text htext => (Option.some_ne_none _ htext.symm).elim
  | saved save hfate hc =>
      have hp := hnamed (by rw [hfate]; exact Option.some_ne_none _)
      obtain ⟨text, hvalue, htext⟩ := savedText_of_fate_ok hp hfate
      obtain ⟨text', hvalue', rfl⟩ := Manager.updateDbPref_string hp hc
      obtain rfl : text' = text := Json.str.inj (hvalue'.symm.trans hvalue)
      rw [Manager.holds_saved_iff hp, htext]
      simp

/-- A preference for which a text is stored is not bound to a setting. -/
theorem Changed.setting_of_savedText {c : Cell} {text : String} (h : Changed env data st p c)
    (htext : env.savedText data st p = some text) : p.setting = none := by
  cases h with
  | kept _ hfate =>
      rw [savedText_of_fate_none hfate] at htext
      cases htext
  | saved save hfate _ =>
      obtain ⟨current_value, -, hprocess⟩ := Option.bind_eq_some_iff.mp hfate
      obtain ⟨-, hwritable, -⟩ := of_processField_ok hprocess
      exact p.setting_eq_none hwritable

/-- A preference with a fate is named in the `dict`. -/
theorem exists_mem_of_fate (hfate : env.fate data st p ≠ none) : ∃ kv ∈ data, kv.1 = p.name := by
  cases hfind : data.find? (·.1 = p.name) with
  | none => exact absurd (fate_eq_none_of_find? hfind) hfate
  | some kv =>
      exact ⟨kv, List.mem_of_find?_eq_some hfind, of_decide_eq_true
        (List.find?_some (p := fun kv : String × Json => kv.1 = p.name) hfind)⟩

/-- After an accepted change, an unencrypted string preference can be read in every run exactly if
the text that was stored for it is readable. If the change was one of such preferences only, then
the whole category can be read, and the gateway starts, exactly if all texts that were stored are
readable. -/
theorem completes_iff_readable {slug : Option String}
    {return_data : Option (List (String × Json))}
    (hbefore : ∀ (accesses : List (Access r)) (a : Access r),
      (env.manager.access a (env.manager.after st accesses)).1 = true)
    (h : env.validateAndSave r slug data st = (.saved return_data, st')) :
    (∀ p ∈ r.preferences, p.IsPlainString → ((∀ accesses : List (Access r),
        (env.manager.getPreferenceValue p (env.manager.after st' accesses)).1.isSome = true ∧
          (env.manager.settingValue p (env.manager.after st' accesses)).isSome = true) ↔
      ∀ text, env.savedText data st p = some text → env.manager.Readable text)) ∧
    ((∀ p ∈ r.preferences, (∃ kv ∈ data, kv.1 = p.name) → p.IsPlainString) →
      ((return_data.isSome = true ∧ ∀ (accesses : List (Access r)) (a : Access r),
          (env.manager.access a (env.manager.after st' accesses)).1 = true) ↔
        ∀ p ∈ r.preferences, ∀ text, env.savedText data st p = some text →
          env.manager.Readable text)) := by
  obtain ⟨saved, hlast, -, -, hchanged⟩ := changed_of_saved h
  have hcells := Manager.completes_iff.mp hbefore
  have hcategory : ∀ p ∈ r.category slug, p ∈ r.preferences := fun p hp => r.mem_of_mem_category hp
  have htouched : env.manager.Touched r saved
      (env.manager.toRepresentation (r.category slug) saved).2 :=
    Manager.touched_toRepresentation hcategory
  rw [hlast] at htouched
  have hsaved : ∀ p ∈ r.preferences, (env.fate data st p ≠ none → p.IsPlainString) →
      (env.manager.Holds Manager.Reads p (saved p.key) ↔
        ∀ text, env.savedText data st p = some text → env.manager.Readable text) :=
    fun p hp hnamed => (hchanged p hp).holds_iff hnamed (hcells p hp).1
  constructor
  · intro p hp hplain
    -- The last read of the category changes nothing about which cells can be read.
    have hholds := (htouched.holds_iff hp).trans (hsaved p hp fun _ => hplain)
    constructor
    · intro hreads text htext
      have hsetting := (hchanged p hp).setting_of_savedText htext
      exact hholds.mp ((Manager.reads_iff_holds hp hplain.encrypted hsetting).mp hreads) text htext
    · intro hreadable accesses
      have hafter := (hholds.mpr hreadable).after hp accesses
      exact ⟨Manager.isSome_getPreferenceValue (hcells p hp).2 hafter,
        Manager.isSome_settingValue hafter⟩
  · intro hstring
    have hsaved : ∀ p ∈ r.preferences, env.manager.Holds Manager.Reads p (saved p.key) ↔
        ∀ text, env.savedText data st p = some text → env.manager.Readable text :=
      fun p hp => hsaved p hp fun hfate => hstring p hp (exists_mem_of_fate hfate)
    constructor
    · rintro ⟨-, hall⟩ p hp
      have hafter := (Manager.completes_iff.mp hall p hp).1
      exact (hsaved p hp).mp ((htouched.holds_iff hp).mp hafter)
    · intro hreadable
      have hcell : ∀ p ∈ r.preferences, env.manager.Holds Manager.Reads p (saved p.key) :=
        fun p hp => (hsaved p hp).mpr (hreadable p hp)
      have hlastReads : (env.manager.toRepresentation (r.category slug) saved).1.isSome = true :=
        Manager.isSome_toRepresentation hcategory (fun p hp => (hcells p (hcategory p hp)).2)
          fun p hp => hcell p (hcategory p hp)
      rw [hlast] at hlastReads
      exact ⟨hlastReads, Manager.completes_iff.mpr fun p hp =>
        ⟨(htouched.holds_iff hp).mpr (hcell p hp), (hcells p hp).2⟩⟩

end Environment

/-! ## A string that looks encrypted -/

/-- An interpreter that prints ASCII. -/
def asciiPython : Python where
  isPrintable c := 32 ≤ c.toNat && c.toNat < 127
  isPrintable_ge := fun _ h => of_decide_eq_true (Bool.and_eq_true_iff.mp h).1
  readNumber n := n
  readNumber_readNumber _ := rfl
  fits_readNumber _ h := h
  numberEq n m := n.literal = m.literal
  numberEq_self _ _ := decide_eq_true rfl
  numberEq_comm _ _ := decide_eq_decide.mpr eq_comm

/-- A manager under whose key nothing has been encrypted. -/
def unusedKey : Manager where
  encryption :=
    { recognises := fun s => Text.startsWith s "$encrypted$UTF8$AESCBC$"
      startsWith_of_recognises := fun s h => List.isPrefixOf_iff_prefix.mpr
        ((List.isPrefixOf_iff_prefix.mp (by decide)).trans (List.isPrefixOf_iff_prefix.mp h))
      decryptRecognised := fun _ => none
      encryptString := fun _ => "$encrypted$UTF8$AESCBC$" }
  noneValue := "__dynamic_preferences_empty_value"
  loads_noneValue := by decide
  noneValue_ne := by decide

/-- Where the settings are changed. -/
def plainEnvironment : Environment where
  py := asciiPython
  manager := unusedKey
  unchangeable := []
  enhancedValidation := false
  textError := fun _ _ => false
  jsonError := fun _ _ _ => false

/-- The user name for subscriptions. -/
def subscriptionsUsername : Preference where
  section_name := "analytics"
  name := "SUBSCRIPTIONS_USERNAME"
  encrypted := false
  read_only := false
  setting := none
  read_only_of_setting := by simp
  isInteger := false
  isString := true
  serializer := stringSerializer
  validate := isStr

/-- The registry with this preference. -/
def analyticsRegistry : Registry where
  preferences := [subscriptionsUsername]
  nodup_names := by decide

/-- No user name is set. -/
def noUsername : Store := fun _ => { raw_value := some "", cached := none }

/-- It is an unencrypted string preference. -/
theorem isPlainString_subscriptionsUsername : subscriptionsUsername.IsPlainString := ⟨rfl, rfl⟩

/-- The store without a user name can be read. -/
theorem completes_noUsername (accesses : List (Access analyticsRegistry))
    (a : Access analyticsRegistry) :
    (unusedKey.access a (unusedKey.after noUsername accesses)).1 = true := by
  have hreadable : unusedKey.Readable "" :=
    ⟨"", Manager.decryptString_empty _, Or.inr (by rw [Manager.decryptString_empty]; rfl)⟩
  have hcell : unusedKey.Holds Manager.Reads subscriptionsUsername
      { raw_value := some "", cached := none } :=
    ((Manager.holds_saved_iff isPlainString_subscriptionsUsername).mpr hreadable).evict
  revert accesses a
  rw [Manager.completes_iff]
  intro p hp
  obtain rfl := List.mem_singleton.mp hp
  exact ⟨hcell, by simp [subscriptionsUsername]⟩

/-- The change of the user name to a text. -/
def setUsername (text : String) : Outcome × Store :=
  plainEnvironment.validateAndSave analyticsRegistry (some "analytics")
    [("SUBSCRIPTIONS_USERNAME", .str text)] noUsername

/-- The user name `bob` is accepted, and then every access completes in every run. -/
theorem completes_bob :
    (setUsername "bob").1 = .saved (some [("SUBSCRIPTIONS_USERNAME", .str "bob")]) ∧
    ∀ (accesses : List (Access analyticsRegistry)) (a : Access analyticsRegistry),
      (unusedKey.access a (unusedKey.after (setUsername "bob").2 accesses)).1 = true := by
  have hsaved : setUsername "bob" = (.saved (some [("SUBSCRIPTIONS_USERNAME", .str "bob")]),
      (setUsername "bob").2) := Prod.ext rfl rfl
  refine ⟨congrArg Prod.fst hsaved, ?_⟩
  have hiff := (plainEnvironment.completes_iff_readable completes_noUsername hsaved).2 ?_
  · refine (hiff.mpr ?_).2
    intro p hp text htext
    obtain rfl := List.mem_singleton.mp hp
    cases htext
    exact ⟨"bob", rfl, Or.inr rfl⟩
  · intro p hp _
    obtain rfl := List.mem_singleton.mp hp
    exact isPlainString_subscriptionsUsername

/-- A user name that looks encrypted is accepted, and then neither can it or its category be read
nor does the gateway start. -/
theorem not_completes_encryptedUsername :
    subscriptionsUsername.IsPlainString ∧
    (∀ (accesses : List (Access analyticsRegistry)) (a : Access analyticsRegistry),
      (unusedKey.access a (unusedKey.after noUsername accesses)).1 = true) ∧
    (setUsername "$encrypted$UTF8$AESCBC$Z0FBQUFB").1 = .saved none ∧
    ∀ a ∈ [.preference subscriptionsUsername (List.mem_singleton.mpr rfl),
        .category (some "analytics"), .start],
      (unusedKey.access (r := analyticsRegistry) a
        (setUsername "$encrypted$UTF8$AESCBC$Z0FBQUFB").2).1 = false := by
  refine ⟨isPlainString_subscriptionsUsername, completes_noUsername, rfl, ?_⟩
  intro a ha
  fin_cases ha <;> rfl

end AapGateway.Preferences
