import Mathlib
import AapGateway.Foundations.Dict
import AapGateway.Foundations.Text
import AapGateway.Xds.Discovery

/-!
# Settings from the environment

`load_custom_envvars` merges environment variables without a prefix into the settings. A value is a
text unless its entry has a transform. The limit of a gRPC message has a minimum: the setting is
compared with it before the environment is merged, and the minimum then takes the place of whatever
the environment says.

The settings are those of Dynaconf, of which only this is used: an update sets a plain value at the
top level as it is, and leaves the settings alone that it has no key for.

## Main definitions

* `loadCustomEnvvars`: the settings after the environment is merged;
* `externalAuthFilter`: the filter whose limit is computed from the setting;
* `FloorHolds`: the setting respects the minimum.

## Main results

* `get_loadCustomEnvvars`: the limit after the environment is merged;
* `floorHolds_iff`: the minimum is respected if the variable is absent, or if both the setting
  and the variable are small.
-/

namespace AapGateway.Settings

/-- The value of a setting. -/
inductive Value where
  | int (n : ℤ)
  | bool (b : Bool)
  | str (s : String)
  | list (elements : List String)
  deriving DecidableEq, Repr

/-- A value that Dynaconf stores as it is. A text that starts with `@` would be converted. -/
def Value.IsPlain : Value → Prop
  | .int _ => True
  | .bool _ => True
  | .str s => s.toList.head? ≠ some '@'
  | .list _ => False

/-- A boolean is an integer. -/
def Value.asInt : Value → Option ℤ
  | .int n => some n
  | .bool b => some (if b then 1 else 0)
  | _ => none

/-- `a < b`. It is `none` for a `TypeError`. -/
def Value.lt? (a b : Value) : Option Bool :=
  match a, b with
  | .str s, .str t => some (s < t)
  | .list xs, .list ys => some (xs < ys)
  | a, b =>
    match a.asInt, b.asInt with
    | some m, some n => some (m < n)
    | _, _ => none

/-- `a - n`. It is `none` for a `TypeError`. -/
def Value.sub? (a : Value) (n : ℤ) : Option ℤ :=
  a.asInt.map fun m => m - n

/-- The key of an update is another one than the key, also in upper case, and does not lead into its
value. -/
def IsApart (key key' : String) : Prop :=
  ¬ (key ++ "__").toList <+: key'.toList ∧
    key'.toList.map Char.toUpper ≠ key.toList.map Char.toUpper

instance (key key' : String) : Decidable (IsApart key key') := by
  unfold IsApart
  infer_instance

/-- The key is one of the top level, and the other keys of the update do not touch its value. -/
def TopLevel (key : String) (data : Dict Value) : Prop :=
  ¬ "__".toList <:+: key.toList ∧ ∀ item ∈ data.items, item.1 = key ∨ IsApart key item.1

/-- The settings of Dynaconf. -/
structure Dynaconf where
  State : Type
  /-- The attribute of a key. -/
  get : State → String → Option Value
  /-- `settings.update(data, merge=True)`. -/
  update : State → Dict Value → State
  get_update_of_some : ∀ s data key v, TopLevel key data → v.IsPlain → data.get? key = some v →
    get (update s data) key = some v
  get_update_of_none : ∀ s data key, TopLevel key data → data.get? key = none →
    get (update s data) key = get s key

/-- What is done with a value of the environment. -/
inductive Transform where
  | none
  | toPythonBoolean
  /-- `lambda v: v.split(",")`. -/
  | splitComma
  deriving DecidableEq, Repr

/-- An entry of the mappings. -/
structure Mapping where
  envVar : String
  settingKey : String
  transform : Transform := .none
  deriving DecidableEq, Repr

/-- `"GRPC_SERVER_MAX_RECEIVE_MESSAGE_LENGTH"`. -/
def maxReceiveMessageLength : String := "GRPC_SERVER_MAX_RECEIVE_MESSAGE_LENGTH"

/-- `"GRPC_SERVER_MAX_RECEIVE_MESSAGE_LENGTH_MIN_VALUE"`. -/
def maxReceiveMessageLengthMinValue : String := "GRPC_SERVER_MAX_RECEIVE_MESSAGE_LENGTH_MIN_VALUE"

/-- `_CUSTOM_ENVVAR_MAPPINGS`. -/
def customEnvvarMappings : List Mapping :=
  [⟨"DATABASE_ENGINE", "DATABASES__default__ENGINE", .none⟩,
   ⟨"DATABASE_NAME", "DATABASES__default__NAME", .none⟩,
   ⟨"DATABASE_USER", "DATABASES__default__USER", .none⟩,
   ⟨"DATABASE_PASSWORD", "DATABASES__default__PASSWORD", .none⟩,
   ⟨"DATABASE_HOST", "DATABASES__default__HOST", .none⟩,
   ⟨"DATABASE_PORT", "DATABASES__default__PORT", .none⟩,
   ⟨"ENVOY_HOSTNAME", "ENVOY_HOSTNAME", .none⟩,
   ⟨"ENVOY_VERIFY_HTTPS_CERTIFICATES", "ENVOY_VERIFY_HTTPS_CERTIFICATES", .none⟩,
   ⟨"ENVOY_PER_CONNECTION_BUFFER_LIMIT_BYTES", "ENVOY_PER_CONNECTION_BUFFER_LIMIT_BYTES", .none⟩,
   ⟨maxReceiveMessageLength, maxReceiveMessageLength, .none⟩,
   ⟨"GATEWAY_CERT_FILE", "GATEWAY_CERT_FILE", .none⟩,
   ⟨"GATEWAY_KEY_FILE", "GATEWAY_KEY_FILE", .none⟩,
   ⟨"GATEWAY_PATH_REWRITE_SCRIPT_FILE", "GATEWAY_PATH_REWRITE_SCRIPT_FILE", .none⟩,
   ⟨"REDIS_URL", "CACHES__primary__LOCATION", .none⟩,
   ⟨"CACHE_KEY_PREFIX", "CACHES__primary__KEY_PREFIX", .none⟩,
   ⟨"REDIS_TLS", "CACHES__primary__OPTIONS__CLIENT_CLASS_KWARGS__ssl", .toPythonBoolean⟩,
   ⟨"REDIS_MODE", "CACHES__primary__OPTIONS__CLIENT_CLASS_KWARGS__mode", .none⟩,
   ⟨"REDIS_SSL_CERT_REQS", "CACHES__primary__OPTIONS__CLIENT_CLASS_KWARGS__ssl_cert_reqs", .none⟩,
   ⟨"REDIS_HOSTS", "CACHES__primary__OPTIONS__CLIENT_CLASS_KWARGS__redis_hosts", .none⟩,
   ⟨"REDIS_KEY_FILE", "CACHES__primary__OPTIONS__CLIENT_CLASS_KWARGS__ssl_keyfile", .none⟩,
   ⟨"REDIS_CERT_FILE", "CACHES__primary__OPTIONS__CLIENT_CLASS_KWARGS__ssl_certfile", .none⟩,
   ⟨"REDIS_CA_CERT_FILE", "CACHES__primary__OPTIONS__CLIENT_CLASS_KWARGS__ssl_ca_certs", .none⟩,
   ⟨"FALLBACK_CACHE_FILE", "CACHES__fallback__LOCATION", .none⟩,
   ⟨"CSRF_TRUSTED_ORIGINS", "CSRF_TRUSTED_ORIGINS", .none⟩,
   ⟨"LOGOUT_ALLOWED_HOSTS", "LOGOUT_ALLOWED_HOSTS", .splitComma⟩,
   ⟨"PING_PAGE_CHECK_TIMEOUT", "PING_PAGE_CHECK_TIMEOUT", .none⟩,
   ⟨"PING_PAGE_CHECK_IGNORE_CERT", "PING_PAGE_CHECK_IGNORE_CERT", .toPythonBoolean⟩]

/-- What the process runs in. -/
structure Environment where
  /-- `os.getenv`. -/
  getenv : String → Option String
  /-- `to_python_boolean`, which may raise. -/
  toPythonBoolean : String → Option Bool

/-- The value of a variable after its transform. -/
def Transform.apply (env : Environment) : Transform → String → Option Value
  | .none, v => some (.str v)
  | .toPythonBoolean, v => (env.toPythonBoolean v).map .bool
  | .splitComma, v => some (.list (Text.split ',' v))

/-- One turn of the loop over the mappings. -/
def addEnvvar (env : Environment) (data : Dict Value) (entry : Mapping) : Option (Dict Value) :=
  match env.getenv entry.envVar with
  | none => some data
  | some value => (entry.transform.apply env value).map fun v => data.set entry.settingKey v

variable (dyn : Dynaconf)

/-- `load_custom_envvars`. It is `none` when it raises. -/
def loadCustomEnvvars (env : Environment) (settings : dyn.State) : Option dyn.State := do
  let data ← customEnvvarMappings.foldlM (addEnvvar env) Dict.empty
  -- override invalid settings
  let length ← dyn.get settings maxReceiveMessageLength
  let minimum ← dyn.get settings maxReceiveMessageLengthMinValue
  let low ← length.lt? minimum
  return dyn.update settings (if low then data.set maxReceiveMessageLength minimum else data)

/-- The `max_request_bytes` of `external_auth_filter`: the largest gRPC header is subtracted. It
is `none` when the subtraction raises. -/
def maxRequestBytes (settings : dyn.State) : Option ℤ :=
  (dyn.get settings maxReceiveMessageLength).bind fun length => length.sub? 8192

/-- `external_auth_filter`. -/
def externalAuthFilter (settings : dyn.State) : Option HttpFilter :=
  match dyn.get settings "GRPC_SERVER_AUTH_SERVICE_TIMEOUT", maxRequestBytes dyn settings with
  | some (.str timeout), some bytes =>
    some (.extAuthz "gateway_control_plane" timeout bytes true true "BadGateway")
  | _, _ => none

/-- A decimal text: digits, with a minus sign or without. -/
structure Decimal where
  negative : Bool
  digits : List Char
  ne_nil : digits ≠ []
  isDigit : ∀ c ∈ digits, c.isDigit = true

/-- The text. -/
def Decimal.text (d : Decimal) : String :=
  String.ofList (if d.negative then '-' :: d.digits else d.digits)

/-- The number that the text writes. -/
def Decimal.value (d : Decimal) : ℤ :=
  if d.negative then -(Nat.ofDigitChars 10 d.digits 0 : ℤ) else Nat.ofDigitChars 10 d.digits 0

/-- The setting is the variable, or the value of the files without one, if that is at least the
minimum, and the minimum otherwise. The filter is built with a limit that is large enough. -/
def FloorHolds (file minimum : ℤ) (envVar : Option ℤ) (settings : dyn.State) : Prop :=
  dyn.get settings maxReceiveMessageLength =
      some (.int (if minimum ≤ envVar.getD file then envVar.getD file else minimum)) ∧
    ∃ bytes, maxRequestBytes dyn settings = some bytes ∧ minimum - 8192 ≤ bytes ∧
      ∀ timeout, dyn.get settings "GRPC_SERVER_AUTH_SERVICE_TIMEOUT" = some (.str timeout) →
        externalAuthFilter dyn settings =
          some (.extAuthz "gateway_control_plane" timeout bytes true true "BadGateway")

section Specs

variable {dyn} {env : Environment}

/-- An entry sets its own key only. -/
theorem get?_addEnvvar_of_ne {data data' : Dict Value} {entry : Mapping} {key : String}
    (h : addEnvvar env data entry = some data') (hne : entry.settingKey ≠ key) :
    data'.get? key = data.get? key := by
  unfold addEnvvar at h
  split at h
  · rw [Option.some.inj h]
  · obtain ⟨v, -, rfl⟩ := Option.map_eq_some_iff.mp h
    rw [Dict.get?_set, if_neg hne.symm]

/-- Entries leave the keys of others alone. -/
theorem get?_foldlM_of_ne {data data' : Dict Value} {entries : List Mapping} {key : String}
    (h : entries.foldlM (addEnvvar env) data = some data')
    (hne : ∀ entry ∈ entries, entry.settingKey ≠ key) : data'.get? key = data.get? key := by
  induction entries generalizing data with
  | nil => rw [Option.some.inj h]
  | cons entry entries ih =>
      rw [List.foldlM_cons] at h
      obtain ⟨next, hnext, hrest⟩ := Option.bind_eq_some_iff.mp h
      rw [ih hrest fun e he => hne e (List.mem_cons_of_mem entry he),
        get?_addEnvvar_of_ne hnext (hne entry List.mem_cons_self)]

/-- The keys that are set are those of the entries. -/
theorem mem_keys_foldlM {data data' : Dict Value} {entries : List Mapping}
    (h : entries.foldlM (addEnvvar env) data = some data') {key : String}
    (hkey : key ∈ data'.items.map Prod.fst) :
    key ∈ data.items.map Prod.fst ∨ key ∈ entries.map Mapping.settingKey := by
  by_cases hentry : key ∈ entries.map Mapping.settingKey
  · exact Or.inr hentry
  · -- No entry sets the key, so it was there before.
    have hne : ∀ entry ∈ entries, entry.settingKey ≠ key :=
      fun entry he heq => hentry (heq ▸ List.mem_map_of_mem he)
    have hsame := get?_foldlM_of_ne h hne
    by_contra hno
    have hnone := (Dict.get?_eq_none data).mpr fun hin => hno (Or.inl hin)
    exact (Dict.get?_eq_none data').mp (hsame.trans hnone) hkey

/-- A key that starts with other letters does not touch the value of the limit. -/
theorem isApart_ofList {c c' : Char} {cs : List Char} (h : c.toUpper ≠ 'G' ∨ c'.toUpper ≠ 'R') :
    IsApart maxReceiveMessageLength (String.ofList (c :: c' :: cs)) := by
  have hlimit : maxReceiveMessageLength.toList =
      'G' :: 'R' :: "PC_SERVER_MAX_RECEIVE_MESSAGE_LENGTH".toList := by
    simp [maxReceiveMessageLength]
  have hkey : (String.ofList (c :: c' :: cs)).toList = c :: c' :: cs := String.toList_ofList
  rw [IsApart, String.toList_append, hkey, hlimit]
  constructor
  · intro hstart
    obtain ⟨hc, hrest⟩ := List.cons_prefix_cons.mp hstart
    obtain ⟨hc', -⟩ := List.cons_prefix_cons.mp hrest
    subst hc hc'
    exact absurd h (by decide)
  · intro hupper
    obtain ⟨hc, hrest⟩ := List.cons.inj hupper
    obtain ⟨hc', -⟩ := List.cons.inj hrest
    exact h.elim (fun hne => hne hc) fun hne => hne hc'

/-- No other key of the mappings touches the value of the limit. -/
theorem isApart_settingKeys {key : String} (h : key ∈ customEnvvarMappings.map Mapping.settingKey) :
    key = maxReceiveMessageLength ∨ IsApart maxReceiveMessageLength key := by
  revert h key
  simp only [customEnvvarMappings, List.map_cons, List.map_nil, List.forall_mem_cons,
    List.not_mem_nil, false_implies, implies_true, and_true, true_or, true_and]
  -- the other keys differ from the limit in one of the first two letters
  and_intros
  all_goals exact Or.inr (isApart_ofList (by decide))

/-- The limit is set as a text when the variable is there, and only then. -/
theorem get?_customEnvvars {data : Dict Value}
    (h : customEnvvarMappings.foldlM (addEnvvar env) Dict.empty = some data) :
    data.get? maxReceiveMessageLength = (env.getenv maxReceiveMessageLength).map Value.str := by
  have hsplit : customEnvvarMappings = customEnvvarMappings.take 9 ++
      ⟨maxReceiveMessageLength, maxReceiveMessageLength, .none⟩ :: customEnvvarMappings.drop 10 :=
    rfl
  rw [hsplit, List.foldlM_append] at h
  obtain ⟨before, hbefore, hrest⟩ := Option.bind_eq_some_iff.mp h
  rw [List.foldlM_cons] at hrest
  obtain ⟨next, hnext, hafter⟩ := Option.bind_eq_some_iff.mp hrest
  have hempty : before.get? maxReceiveMessageLength = none :=
    (get?_foldlM_of_ne hbefore (by decide)).trans rfl
  rw [get?_foldlM_of_ne hafter (by decide)]
  -- The entry of the limit has no transform.
  cases hvar : env.getenv maxReceiveMessageLength with
  | none =>
      simp only [addEnvvar, hvar, Option.some.injEq] at hnext
      rw [← hnext, hempty]
      rfl
  | some text =>
      simp only [addEnvvar, hvar, Transform.apply, Option.map_some, Option.some.injEq] at hnext
      rw [← hnext, Dict.get?_set, if_pos rfl]
      rfl

/-- An update of the limit is one at the top level. -/
theorem topLevel_of_foldlM {data : Dict Value}
    (h : customEnvvarMappings.foldlM (addEnvvar env) Dict.empty = some data) :
    TopLevel maxReceiveMessageLength data := by
  refine ⟨by decide, fun item hitem => ?_⟩
  rcases mem_keys_foldlM h (List.mem_map_of_mem (f := Prod.fst) hitem) with hempty | hkey
  · exact absurd hempty List.not_mem_nil
  · exact isApart_settingKeys hkey

/-- Setting the limit itself leaves the update at the top level. -/
theorem TopLevel.set {data : Dict Value} (h : TopLevel maxReceiveMessageLength data) (v : Value) :
    TopLevel maxReceiveMessageLength (data.set maxReceiveMessageLength v) := by
  refine ⟨h.1, fun item hitem => ?_⟩
  rcases Table.mem_upsert.mp hitem with rfl | ⟨hmem, -⟩
  · exact Or.inl rfl
  · exact h.2 item hmem

/-- A decimal text is stored as it is. -/
theorem isPlain_text (d : Decimal) : (Value.str d.text).IsPlain := by
  obtain ⟨c, cs, hdigits⟩ := List.exists_cons_of_ne_nil d.ne_nil
  rw [Value.IsPlain, Decimal.text, String.toList_ofList]
  split_ifs with hnegative
  · simp
  · have hc : c.isDigit = true := d.isDigit c (by simp [hdigits])
    rw [hdigits, List.head?_cons, ne_eq, Option.some.injEq]
    rintro rfl
    exact absurd hc (by decide)

/-- The limit after the environment is merged: the minimum if the files had a smaller one, and
otherwise the text of the variable. -/
theorem get_loadCustomEnvvars {settings settings' : dyn.State} {file minimum : ℤ}
    (hfile : dyn.get settings maxReceiveMessageLength = some (.int file))
    (hminimum : dyn.get settings maxReceiveMessageLengthMinValue = some (.int minimum))
    {envVar : Option Decimal}
    (hvar : env.getenv maxReceiveMessageLength = envVar.map Decimal.text)
    (h : loadCustomEnvvars dyn env settings = some settings') :
    dyn.get settings' maxReceiveMessageLength =
      some (if file < minimum then .int minimum
        else envVar.elim (.int file) fun d => .str d.text) := by
  simp only [loadCustomEnvvars, hfile, hminimum, Option.bind_eq_bind] at h
  obtain ⟨data, hdata, h⟩ := Option.bind_eq_some_iff.mp h
  have hget := get?_customEnvvars hdata
  have htop := topLevel_of_foldlM hdata
  simp only [Option.bind_some, Value.lt?, Value.asInt, Option.pure_def,
    Option.some.injEq, decide_eq_true_eq] at h
  subst h
  split_ifs with hlow
  · apply dyn.get_update_of_some _ _ _ _ (htop.set _)
    · trivial
    · rw [Dict.get?_set, if_pos rfl]
  · cases envVar with
    | none =>
        rw [dyn.get_update_of_none _ _ _ htop (by rw [hget, hvar]; rfl), hfile]
        rfl
    | some d =>
        exact dyn.get_update_of_some _ _ _ _ htop (isPlain_text d) (by rw [hget, hvar]; rfl)

/-- The environment is merged unless the transform of a variable raises. -/
theorem exists_loadCustomEnvvars {settings : dyn.State} {file minimum : ℤ}
    (hfile : dyn.get settings maxReceiveMessageLength = some (.int file))
    (hminimum : dyn.get settings maxReceiveMessageLengthMinValue = some (.int minimum))
    (henv : ∀ entry ∈ customEnvvarMappings, ∀ text, env.getenv entry.envVar = some text →
      (entry.transform.apply env text).isSome = true) :
    ∃ settings', loadCustomEnvvars dyn env settings = some settings' := by
  have hfold : ∀ (entries : List Mapping) (data : Dict Value),
      (∀ entry ∈ entries, ∀ text, env.getenv entry.envVar = some text →
        (entry.transform.apply env text).isSome = true) →
      ∃ data', entries.foldlM (addEnvvar env) data = some data' := by
    intro entries
    induction entries with
    | nil => exact fun data _ => ⟨data, rfl⟩
    | cons entry entries ih =>
        intro data hentries
        obtain ⟨next, hnext⟩ : ∃ next, addEnvvar env data entry = some next := by
          unfold addEnvvar
          split
          · exact ⟨data, rfl⟩
          · next text htext =>
              obtain ⟨v, hv⟩ := Option.isSome_iff_exists.mp
                (hentries entry List.mem_cons_self text htext)
              exact ⟨_, by rw [hv]; rfl⟩
        rw [List.foldlM_cons, hnext]
        exact ih next fun e he => hentries e (List.mem_cons_of_mem entry he)
  obtain ⟨data, hdata⟩ := hfold customEnvvarMappings Dict.empty henv
  exact ⟨_, by simp only [loadCustomEnvvars, hdata, hfile, hminimum, Option.bind_eq_bind,
    Option.bind_some, Value.lt?, Value.asInt]; rfl⟩

/-- The minimum is respected exactly if the variable is absent, or if the files have a value below
the minimum and the variable is not above it. -/
theorem floorHolds_iff (dyn : Dynaconf) (env : Environment) {settings settings' : dyn.State}
    {file minimum : ℤ} (hfile : dyn.get settings maxReceiveMessageLength = some (.int file))
    (hminimum : dyn.get settings maxReceiveMessageLengthMinValue = some (.int minimum))
    {envVar : Option Decimal}
    (hvar : env.getenv maxReceiveMessageLength = envVar.map Decimal.text)
    (h : loadCustomEnvvars dyn env settings = some settings') :
    FloorHolds dyn file minimum (envVar.map Decimal.value) settings' ↔
      ∀ d, envVar = some d → file < minimum ∧ d.value ≤ minimum := by
  have hget := get_loadCustomEnvvars hfile hminimum hvar h
  constructor
  · rintro ⟨hlimit, -⟩ d rfl
    rw [hget] at hlimit
    by_cases hlow : file < minimum
    · refine ⟨hlow, ?_⟩
      simp only [if_pos hlow, Option.map_some, Option.getD_some, Option.some.injEq,
        Value.int.injEq] at hlimit
      split_ifs at hlimit with hle <;> omega
    · -- The setting would be the text.
      simp [if_neg hlow] at hlimit
  · intro hcond
    have hlimit : dyn.get settings' maxReceiveMessageLength = some (.int
        (if minimum ≤ (envVar.map Decimal.value).getD file then (envVar.map Decimal.value).getD file
          else minimum)) := by
      rw [hget]
      cases envVar with
      | none =>
          simp only [Option.map_none, Option.getD_none]
          split_ifs <;> first | rfl | omega
      | some d =>
          obtain ⟨hlow, hle⟩ := hcond d rfl
          simp only [if_pos hlow, Option.map_some, Option.getD_some]
          congr 2
          split_ifs <;> omega
    have hbytes : maxRequestBytes dyn settings' = some
        ((if minimum ≤ (envVar.map Decimal.value).getD file then
          (envVar.map Decimal.value).getD file else minimum) - 8192) := by
      rw [maxRequestBytes, hlimit]
      rfl
    refine ⟨hlimit, _, hbytes, ?_, fun timeout htimeout => ?_⟩
    · split_ifs <;> omega
    · rw [externalAuthFilter, htimeout, hbytes]

end Specs

/-- Settings that are all at the top level. -/
def flatDynaconf : Dynaconf where
  State := String → Option Value
  get s key := s key
  update s data := fun key => (data.get? key).or (s key)
  get_update_of_some s data key v _ _ h := by simp [h]
  get_update_of_none s data key _ h := by simp [h]

/-- An environment with the limit only. -/
def limitOnly (text : Option String) : Environment where
  getenv name := if name = maxReceiveMessageLength then text else none
  toPythonBoolean _ := none

/-- Settings with a limit and the default minimum. -/
def limits (file : ℤ) : flatDynaconf.State := fun key =>
  if key = maxReceiveMessageLength then some (.int file)
  else if key = maxReceiveMessageLengthMinValue then some (.int 4194304)
  else none

/-- The text `1024`. -/
def decimal1024 : Decimal where
  negative := false
  digits := ['1', '0', '2', '4']
  ne_nil := List.cons_ne_nil _ _
  isDigit := by simp

/-- The limit of the settings. -/
theorem get_limits (file : ℤ) :
    flatDynaconf.get (limits file) maxReceiveMessageLength = some (.int file) := by
  simp [flatDynaconf, limits]

/-- The minimum of the settings. -/
theorem get_limits_minimum (file : ℤ) :
    flatDynaconf.get (limits file) maxReceiveMessageLengthMinValue = some (.int 4194304) := by
  have hne : maxReceiveMessageLengthMinValue ≠ maxReceiveMessageLength := by decide
  simp [flatDynaconf, limits, hne]

/-- The limit of the environment. -/
theorem getenv_limitOnly_1024 :
    (limitOnly (some "1024")).getenv maxReceiveMessageLength =
      (some decimal1024).map Decimal.text := by
  have htext : decimal1024.text = "1024" := by decide
  simp [limitOnly, htext]

/-- The environment with the limit only can be merged. -/
theorem exists_loadCustomEnvvars_limitOnly (text : Option String) (file : ℤ) :
    ∃ settings',
      loadCustomEnvvars flatDynaconf (limitOnly text) (limits file) = some settings' := by
  have hplain : ∀ entry ∈ customEnvvarMappings,
      entry.envVar = maxReceiveMessageLength → entry.transform = .none := by decide
  refine @exists_loadCustomEnvvars flatDynaconf (limitOnly text) (limits file) file 4194304
    (get_limits file) (get_limits_minimum file) fun entry hentry text' htext => ?_
  have hname : entry.envVar = maxReceiveMessageLength := by
    by_contra hne
    simp [limitOnly, hne] at htext
  rw [hplain entry hentry hname]
  rfl

/-- A small limit in the files and a small one in the environment become the minimum. -/
theorem floorHolds_limits_1024 : ∃ settings',
    loadCustomEnvvars flatDynaconf (limitOnly (some "1024")) (limits 1048576) = some settings' ∧
      FloorHolds flatDynaconf 1048576 4194304 (some 1024) settings' := by
  obtain ⟨settings', h⟩ := exists_loadCustomEnvvars_limitOnly (some "1024") 1048576
  refine ⟨settings', h, ?_⟩
  have hiff := @floorHolds_iff flatDynaconf (limitOnly (some "1024")) (limits 1048576) settings'
    1048576 4194304 (get_limits _) (get_limits_minimum _) (some decimal1024)
    getenv_limitOnly_1024 h
  exact hiff.mpr fun d hd => by
    cases hd
    decide

/-- With the default of the files a limit below the minimum stays, and as a text. -/
theorem not_floorHolds_default_1024 : ¬ ∀ (dyn : Dynaconf) (env : Environment)
    (settings settings' : dyn.State) (file minimum : ℤ) (envVar : Option Decimal),
    dyn.get settings maxReceiveMessageLength = some (.int file) →
    dyn.get settings maxReceiveMessageLengthMinValue = some (.int minimum) →
    env.getenv maxReceiveMessageLength = envVar.map Decimal.text →
    loadCustomEnvvars dyn env settings = some settings' →
    FloorHolds dyn file minimum (envVar.map Decimal.value) settings' := by
  intro hall
  obtain ⟨settings', h⟩ := exists_loadCustomEnvvars_limitOnly (some "1024") 20971520
  have hget := @get_loadCustomEnvvars flatDynaconf (limitOnly (some "1024")) (limits 20971520)
    settings' 20971520 4194304 (get_limits _) (get_limits_minimum _) (some decimal1024)
    getenv_limitOnly_1024 h
  have hfloor := hall flatDynaconf (limitOnly (some "1024")) (limits 20971520) settings' 20971520
    4194304 (some decimal1024) (get_limits _) (get_limits_minimum _) getenv_limitOnly_1024 h
  rw [FloorHolds, hget] at hfloor
  simp at hfloor

end AapGateway.Settings
