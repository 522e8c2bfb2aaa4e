import AapGateway.Foundations.Canonical
import AapGateway.Foundations.Checks
import AapGateway.Foundations.PythonText
import AapGateway.Tools.MigrationHistory

/-!
# The inventory of a stage

The collector runs in the environment of a stage and writes the migrations of the checkout, the
applied ones and the dependencies from version control. The runner reads the file back and accepts
only what has the schema of the collector and names the stage and the commit it has asked for. The
policy is a JSON file as well.

What is collected is a parameter. The JSON text in between is left out, and so are the temporary
file and the texts of JSON decoding errors.

## Main definitions

* `CollectedInventory` and `UpgradePolicy`: what is accepted;
* `validateInventory`, `policyOfJson` and `validateVcsProvenance`: the checks of the runner;
* `buildInventory`: the collector.

## Main results

* `validateInventory_eq_ok`: the accepted values are those that an inventory is written as;
* `validateInventory_buildInventory`: what the collector writes is accepted exactly if the names of
  the migrations are regular;
* `validateVcsProvenance_eq_nil`: there is no violation exactly if every dependency is pinned.
-/

namespace AapGateway.Tools

open Checks

/-! ## Patterns -/

/-- A text of a first character and a bounded number of others. -/
def isWord (first rest : Char → Bool) (least most : ℕ) (s : String) : Bool :=
  match s.toList with
  | [] => false
  | c :: cs => first c && cs.all rest && decide (least ≤ cs.length) && decide (cs.length ≤ most)

/-- `[A-Za-z0-9_]`. -/
def isNameChar (c : Char) : Bool := c.isAlphanum || c = '_'

/-- `[0-9a-f]`. -/
def isLowerHex (c : Char) : Bool := c.isDigit || decide ('a' ≤ c) && decide (c ≤ 'f')

/-- `[0-9a-fA-F]`. -/
def isHex (c : Char) : Bool := isLowerHex c || decide ('A' ≤ c) && decide (c ≤ 'F')

/-- `APP_PATTERN`. -/
def isAppLabel (s : String) : Bool :=
  match s.toList with
  | [] => false
  | c :: cs => (c.isAlpha || c = '_') && cs.all isNameChar

/-- `MIGRATION_KEY_PATTERN`. -/
def isMigrationKey (s : String) : Bool :=
  isAppLabel (appLabel s) &&
    match s.toList.dropWhile (· ≠ '.') with
    | _ :: c :: cs => (c :: cs).all isNameChar
    | _ => false

/-- `GIT_SHA_PATTERN`. -/
def isGitSha : String → Bool := isWord isHex isHex 39 39

/-- `SAFE_COMMIT_PATTERN`. -/
def isSafeCommit : String → Bool :=
  isWord Char.isAlphanum (fun c => c.isAlphanum || c ∈ ['.', '_', '-']) 6 127

/-- `SAFE_DISTRIBUTION_PATTERN`. -/
def isDistribution : String → Bool :=
  isWord Char.isAlphanum (fun c => c.isAlphanum || c ∈ ['.', '_', ' ', '-']) 0 127

/-- `SAFE_PROVENANCE_REF_PATTERN`. -/
def isProvenanceRef : String → Bool :=
  isWord Char.isAlphanum (fun c => c.isAlphanum || c ∈ ['.', '_', '/', '+', '@', '-']) 0 127

/-- `[A-Za-z0-9_-]{1,32}`. -/
def isVcs : String → Bool :=
  isWord (fun c => isNameChar c || c = '-') (fun c => isNameChar c || c = '-') 0 31

/-- The pattern for the commits of a kind of version control. -/
def isCommit (vcs s : String) : Bool :=
  if vcs = "git" then isGitSha s else isSafeCommit s

/-- `[0-9a-f]{64}`. -/
def isFingerprint : String → Bool := isWord isLowerHex isLowerHex 63 63

/-- `[0-9a-fA-F]{7,64}`. -/
def isCheckoutSha : String → Bool := isWord isHex isHex 6 63

/-! ## What is accepted -/

/-- `d[key]` of a key that is there, and `d.get(key)`. -/
def field (d : Dict Json) (key : String) : Json := (d.get? key).getD .null

/-- The keys of an object are these. -/
def HasKeys {β : Type} (d : Dict β) (keys : List String) : Prop :=
  (∀ key ∈ keys, key ∈ d.items.map Prod.fst) ∧ ∀ key ∈ d.items.map Prod.fst, key ∈ keys

instance instDecidableHasKeys {β : Type} (d : Dict β) (keys : List String) :
    Decidable (HasKeys d keys) :=
  inferInstanceAs (Decidable (_ ∧ _))

/-- A dependency from version control. -/
structure VcsDependency where
  distribution : Matching isDistribution
  vcs : Matching isVcs
  requestedRevision : Option (Matching isProvenanceRef)
  commitId : Matching (isCommit vcs.val)
  editable : Bool

/-- An inventory that has been accepted. -/
structure CollectedInventory where
  stage : String
  checkoutSha : String
  available : Dict (Matching isFingerprint)
  applied : List String
  dependencies : Dict (List (Matching isMigrationKey))
  replacements : Dict (List (Matching isMigrationKey))
  vcsDependencies : List VcsDependency
  isMigrationKey_available : ∀ item ∈ available.items, isMigrationKey item.1 = true
  isMigrationKey_applied : ∀ key ∈ applied, isMigrationKey key = true
  nodup_applied : applied.Nodup
  keys_dependencies : HasKeys dependencies (available.items.map Prod.fst)
  keys_replacements : HasKeys replacements (available.items.map Prod.fst)

/-- A migration that an exception is made for: its app is an enforced one. -/
abbrev Exempted (enforcedApps : List (Matching isAppLabel)) : Type :=
  {m : String // isMigrationKey m = true ∧ appLabel m ∈ enforcedApps.map Subtype.val}

/-- A policy that has been accepted. -/
structure UpgradePolicy where
  enforcedApps : List (Matching isAppLabel)
  allowedMissing : List (Exempted enforcedApps)
  allowedFingerprintChanges : List (Exempted enforcedApps)
  immutableVcsStages : List (Matching isStageName)

/-- The part of a policy that the history check reads. -/
def UpgradePolicy.toMigrationPolicy (policy : UpgradePolicy) : MigrationPolicy where
  enforcedApps := policy.enforcedApps.map Subtype.val
  allowedMissing := policy.allowedMissing.map Subtype.val
  allowedFingerprintChanges := policy.allowedFingerprintChanges.map Subtype.val

/-! ## Checks on objects -/

/-- Missing and unknown keys, with the two messages. -/
def checkKeys (keys : List String) (missingMessage unknownMessage : String) (d : Dict Json) :
    Except String Unit := do
  let missing := keys.filter (· ∉ d.items.map Prod.fst)
  let unknown := (d.items.map Prod.fst).filter (· ∉ keys)
  ensure (missing = []) (missingMessage ++ ", ".intercalate (Canonical.sorted id missing))
  ensure (unknown = []) (unknownMessage ++ ", ".intercalate (Canonical.sorted id unknown))

/-- The keys are right exactly if none is missing and none is unknown. -/
theorem checkKeys_eq_ok {keys : List String} {missingMessage unknownMessage : String}
    {d : Dict Json} {u : Unit} :
    checkKeys keys missingMessage unknownMessage d = .ok u ↔ HasKeys d keys := by
  rw [checkKeys, HasKeys]
  simp only [ensure_bind_eq_ok, ensure_eq_ok, List.filter_eq_nil_iff, decide_not,
    Bool.not_eq_true', decide_eq_false_iff_not, not_not]

/-- A string that must match. -/
def matching (p : String → Bool) (e s : String) : Except String (Matching p) :=
  if h : p s = true then .ok ⟨s, h⟩ else .error e

/-- The string that matches. -/
theorem matching_eq_ok {p : String → Bool} {e s : String} {m : Matching p} :
    matching p e s = .ok m ↔ s = m.val := by
  rw [matching]
  constructor
  · intro h
    split_ifs at h
    cases h
    rfl
  · rintro rfl
    rw [dif_pos m.property]

/-! ## The policy -/

section Policy

variable (py : Python)

/-- `POLICY_KEYS`. -/
def policyKeys : List String :=
  ["enforced_apps", "allowed_missing", "allowed_fingerprint_changes", "immutable_vcs_stages"]

/-- `_string_array`. -/
def stringArray (payload : Dict Json) (name : String) : Except String (List String) := do
  let value ← array ("Migration policy " ++ name ++ " must be an array") (field payload name)
  let texts ← value.mapM (text (fun _ => true)
    ("Migration policy " ++ name ++ " entries must be strings"))
  ensure (texts.map Subtype.val).Nodup
    ("Migration policy contains duplicate entries in " ++ name)
  return texts.map Subtype.val

/-- `repr(s)`. -/
def repr (s : String) : String := String.ofList (py.reprString s)

/-- The check of a migration that an exception is made for. -/
def exempted (enforcedApps : List (Matching isAppLabel)) (name migrationKey : String) :
    Except String (Exempted enforcedApps) :=
  if hkey : isMigrationKey migrationKey = true then
    if happ : appLabel migrationKey ∈ enforcedApps.map Subtype.val then
      .ok ⟨migrationKey, hkey, happ⟩
    else .error ("Migration exception " ++ repr py migrationKey ++ " belongs to app " ++
      repr py (appLabel migrationKey) ++ ", which is not enforced")
  else .error ("Invalid migration key in " ++ name ++ ": " ++ repr py migrationKey)

/-- `load_policy`, after the file has been read. -/
def policyOfJson (payload : Json) : Except String UpgradePolicy := do
  let payload ← object "Migration policy must be a JSON object" payload
  checkKeys policyKeys "Migration policy has missing keys: " "Migration policy has unknown keys: "
    payload
  let enforcedApps ← stringArray payload "enforced_apps"
  let allowedMissing ← stringArray payload "allowed_missing"
  let allowedFingerprintChanges ← stringArray payload "allowed_fingerprint_changes"
  let immutableVcsStages ← stringArray payload "immutable_vcs_stages"
  let enforcedApps ← enforcedApps.mapM fun app =>
    matching isAppLabel ("Invalid enforced app label: " ++ repr py app) app
  let allowedMissing ← allowedMissing.mapM (exempted py enforcedApps "allowed_missing")
  let allowedFingerprintChanges ←
    allowedFingerprintChanges.mapM (exempted py enforcedApps "allowed_fingerprint_changes")
  let immutableVcsStages ← immutableVcsStages.mapM fun stage =>
    matching isStageName ("Invalid immutable VCS stage name: " ++ repr py stage) stage
  return { enforcedApps, allowedMissing, allowedFingerprintChanges, immutableVcsStages }

variable {py}

/-- An array of texts is written in an object, none of them twice. -/
def IsArrayIn (texts : List String) (name : String) (d : Dict Json) : Prop :=
  texts.Nodup ∧ field d name = .arr (texts.map .str)

/-- A policy is written in an object. -/
structure UpgradePolicy.IsIn (policy : UpgradePolicy) (d : Dict Json) : Prop where
  keys : HasKeys d policyKeys
  enforcedApps : IsArrayIn (policy.enforcedApps.map Subtype.val) "enforced_apps" d
  allowedMissing : IsArrayIn (policy.allowedMissing.map Subtype.val) "allowed_missing" d
  allowedFingerprintChanges :
    IsArrayIn (policy.allowedFingerprintChanges.map Subtype.val) "allowed_fingerprint_changes" d
  immutableVcsStages :
    IsArrayIn (policy.immutableVcsStages.map Subtype.val) "immutable_vcs_stages" d

/-- The arrays that are accepted. -/
theorem stringArray_eq_ok {payload : Dict Json} {name : String} {texts : List String} :
    stringArray payload name = .ok texts ↔ IsArrayIn texts name payload := by
  rw [stringArray, IsArrayIn]
  simp only [bind_eq_ok, array_eq_ok, mapM_eq_ok_of_iff fun v s => text_eq_ok, ensure_eq_ok]
  constructor
  · rintro ⟨value, hvalue, found, rfl, _, hnodup, hpure⟩
    cases hpure
    rw [hvalue, List.map_map]
    exact ⟨hnodup, rfl⟩
  · rintro ⟨hnodup, hvalue⟩
    have hback : (texts.map fun s => (⟨s, rfl⟩ : Matching fun _ => true)).map Subtype.val =
        texts := by
      rw [List.map_map]
      exact List.map_id texts
    refine ⟨_, hvalue, texts.map fun s => ⟨s, rfl⟩, ?_, (), ?_, ?_⟩
    · rw [List.map_map]
      rfl
    · rwa [hback]
    · rw [hback]
      rfl

/-- The exceptions that are accepted. -/
theorem exempted_eq_ok {enforcedApps : List (Matching isAppLabel)} {name : String}
    (migrationKey : String) (m : Exempted enforcedApps) :
    exempted py enforcedApps name migrationKey = .ok m ↔ migrationKey = m.val := by
  rw [exempted]
  constructor
  · intro h
    split_ifs at h
    cases h
    rfl
  · rintro rfl
    rw [dif_pos m.property.1, dif_pos m.property.2]

/-- The policies that are accepted: those that are written in the value. -/
theorem policyOfJson_eq_ok {v : Json} {policy : UpgradePolicy} :
    policyOfJson py v = .ok policy ↔ ∃ d, v.asDict? = some d ∧ policy.IsIn d := by
  rw [policyOfJson]
  simp only [bind_eq_ok, object_eq_ok, checkKeys_eq_ok, stringArray_eq_ok,
    mapM_eq_ok_of_iff exempted_eq_ok, mapM_eq_ok_of_iff fun s m => matching_eq_ok]
  constructor
  · rintro ⟨d, hd, _, hkeys, _, henforced, _, hmissing, _, hchanges, _, hstages, enforcedApps, rfl,
      allowedMissing, rfl, allowedFingerprintChanges, rfl, immutableVcsStages, rfl, hpure⟩
    cases hpure
    exact ⟨d, hd, hkeys, henforced, hmissing, hchanges, hstages⟩
  · rintro ⟨d, hd, h⟩
    exact ⟨d, hd, (), h.keys, _, h.enforcedApps, _, h.allowedMissing, _,
      h.allowedFingerprintChanges, _, h.immutableVcsStages, _, rfl, _, rfl, _, rfl, _, rfl, rfl⟩

end Policy

/-! ## The inventory -/

section Validate

variable (py : Python)

/-- `INVENTORY_KEYS`. -/
def inventoryKeys : List String :=
  ["stage", "checkout_sha", "available", "applied", "dependencies", "replacements",
    "vcs_dependencies"]

/-- The fields of a dependency from version control. -/
def vcsKeys : List String :=
  ["distribution", "vcs", "requested_revision", "commit_id", "editable"]

/-- A value is this text. -/
def isText (s : String) : Json → Bool
  | .str t => t = s
  | _ => false

/-- The check of one entry of `available`. -/
def checkFingerprint (migrationKey : String) (fingerprint : Json) :
    Except String (Matching isFingerprint) := do
  ensure (isMigrationKey migrationKey = true)
    ("inventory has invalid migration key: " ++ repr py migrationKey)
  text isFingerprint ("inventory has invalid fingerprint for " ++ migrationKey) fingerprint

/-- The fingerprints that have been accepted. -/
theorem checkFingerprint_eq_ok (migrationKey : String) (v : Json) (f : Matching isFingerprint) :
    checkFingerprint py migrationKey v = .ok f ↔
      isMigrationKey migrationKey = true ∧ v = .str f.val := by
  rw [checkFingerprint, ensure_bind_eq_ok, text_eq_ok]

/-- The check of `available`. -/
def checkAvailable (v : Json) : Except String
    {d : Dict (Matching isFingerprint) // ∀ item ∈ d.items, isMigrationKey item.1 = true} := do
  let entries ← object "inventory available must be an object" v
  attach (mapValues (checkFingerprint py) entries) fun _ h =>
    ((mapValues_eq_ok_of_iff (checkFingerprint_eq_ok py)).mp h).2

/-- The check of `applied`. -/
def checkApplied (v : Json) : Except String
    {l : List String // l.Nodup ∧ ∀ key ∈ l, isMigrationKey key = true} := do
  let items ← array "inventory applied must be an array of migration keys" v
  let texts ← items.mapM (text (fun _ => true)
    "inventory applied must be an array of migration keys")
  let keys := texts.map Subtype.val
  if hnodup : keys.Nodup then
    if hkeys : ∀ key ∈ keys, isMigrationKey key = true then .ok ⟨keys, hnodup, hkeys⟩
    else .error "inventory applied contains an invalid migration key"
  else .error "inventory applied contains duplicate migration keys"

/-- The check of one entry of `dependencies` or `replacements`. -/
def checkRelated (name migrationKey : String) (related : Json) :
    Except String (List (Matching isMigrationKey)) := do
  let message := "inventory " ++ name ++ " for " ++ migrationKey ++
    " must be an array of migration keys"
  let items ← array message related
  items.mapM (text isMigrationKey message)

/-- The check of `dependencies` or `replacements`. -/
def checkGraph (name : String) (available : Dict (Matching isFingerprint)) (v : Json) :
    Except String {g : Dict (List (Matching isMigrationKey)) //
      HasKeys g (available.items.map Prod.fst)} := do
  let mismatch := "inventory " ++ name ++ " keys must match available migrations"
  let graph ← object mismatch v
  if hkeys : HasKeys graph (available.items.map Prod.fst) then
    attach (mapValues (checkRelated name) graph) fun _ h => by
      rw [HasKeys, map_fst_of_forall₂ (fun _ _ hitem => hitem.1) (mapValues_eq_ok.mp h)]
      exact hkeys
  else .error mismatch

/-- The check of a dependency from version control. -/
def checkVcsDependency (v : Json) : Except String VcsDependency := do
  let dependency ← object "inventory VCS dependency must be an object" v
  ensure (HasKeys dependency vcsKeys) "inventory VCS dependency has invalid fields"
  let distribution ← text isDistribution
    "inventory VCS dependency has invalid distribution name" (field dependency "distribution")
  let vcs ← text isVcs "inventory VCS dependency has invalid VCS type" (field dependency "vcs")
  let commitId ← text (isCommit vcs.val)
    "inventory VCS dependency has invalid identity fields" (field dependency "commit_id")
  let requestedRevision ← optionalText isProvenanceRef
    "inventory VCS dependency has invalid requested_revision"
    (field dependency "requested_revision")
  let editable ← boolean "inventory VCS dependency has invalid editable flag"
    (field dependency "editable")
  return { distribution, vcs, requestedRevision, commitId, editable }

/-- `validate_inventory`. -/
def validateInventory (expectedStage expectedCheckoutSha : String) (inventory : Json) :
    Except String CollectedInventory := do
  let inventory ← object "inventory must be an object" inventory
  checkKeys inventoryKeys "inventory is missing fields: " "inventory has unknown fields: " inventory
  ensure (isText expectedStage (field inventory "stage") = true)
    ("inventory stage does not match requested stage " ++ repr py expectedStage)
  ensure (isText expectedCheckoutSha (field inventory "checkout_sha") = true)
    "inventory checkout SHA does not match requested checkout"
  let available ← checkAvailable py (field inventory "available")
  let applied ← checkApplied (field inventory "applied")
  let dependencies ← checkGraph "dependencies" available.val (field inventory "dependencies")
  let replacements ← checkGraph "replacements" available.val (field inventory "replacements")
  let vcsDependencies ← array "inventory vcs_dependencies must be an array"
    (field inventory "vcs_dependencies")
  let vcsDependencies ← vcsDependencies.mapM checkVcsDependency
  return {
    stage := expectedStage
    checkoutSha := expectedCheckoutSha
    available := available.val
    applied := applied.val
    dependencies := dependencies.val
    replacements := replacements.val
    vcsDependencies
    isMigrationKey_available := available.property
    nodup_applied := applied.property.1
    isMigrationKey_applied := applied.property.2
    keys_dependencies := dependencies.property
    keys_replacements := replacements.property }

end Validate

section Accepted

variable {py : Python}

/-- A list of migration keys as a JSON value. -/
def jsonOfKeys (keys : List (Matching isMigrationKey)) : Json :=
  .arr (keys.map fun key => .str key.val)

/-- A dependency is written in an object. -/
structure VcsDependency.IsIn (dependency : VcsDependency) (d : Dict Json) : Prop where
  keys : HasKeys d vcsKeys
  distribution : field d "distribution" = .str dependency.distribution.val
  vcs : field d "vcs" = .str dependency.vcs.val
  commitId : field d "commit_id" = .str dependency.commitId.val
  requestedRevision : field d "requested_revision" = jsonOfOption dependency.requestedRevision
  editable : field d "editable" = .bool dependency.editable

/-- An inventory is written in an object. -/
structure CollectedInventory.IsIn (i : CollectedInventory) (d : Dict Json) : Prop where
  keys : HasKeys d inventoryKeys
  stage : field d "stage" = .str i.stage
  checkoutSha : field d "checkout_sha" = .str i.checkoutSha
  available : (field d "available").asDict? = some (i.available.mapValues fun f => .str f.val)
  applied : field d "applied" = .arr (i.applied.map .str)
  dependencies : (field d "dependencies").asDict? = some (i.dependencies.mapValues jsonOfKeys)
  replacements : (field d "replacements").asDict? = some (i.replacements.mapValues jsonOfKeys)
  vcsDependencies : ∃ vs, field d "vcs_dependencies" = .arr vs ∧
    List.Forall₂ (fun v dependency => ∃ d, v.asDict? = some d ∧ dependency.IsIn d) vs
      i.vcsDependencies

/-- The text of a value. -/
theorem isText_eq_true {s : String} {v : Json} : isText s v = true ↔ v = .str s := by
  rcases v with _ | b | n | t | vs | kvs
  all_goals simp [isText]

/-- The dependencies that are accepted. -/
theorem checkVcsDependency_eq_ok {v : Json} {dependency : VcsDependency} :
    checkVcsDependency v = .ok dependency ↔ ∃ d, v.asDict? = some d ∧ dependency.IsIn d := by
  rw [checkVcsDependency, bind_eq_ok]
  refine exists_congr fun d => and_congr object_eq_ok ?_
  simp only [bind_eq_ok, ensure_eq_ok, text_eq_ok, optionalText_eq_ok, boolean_eq_ok]
  constructor
  · rintro ⟨_, hkeys, distribution, hdistribution, vcs, hvcs, commitId, hcommit,
      requestedRevision, hrequested, editable, heditable, hpure⟩
    cases hpure
    exact ⟨hkeys, hdistribution, hvcs, hcommit, hrequested, heditable⟩
  · intro h
    exact ⟨(), h.keys, _, h.distribution, _, h.vcs, _, h.commitId, _, h.requestedRevision, _,
      h.editable, rfl⟩

/-- The fingerprints that are accepted. -/
theorem checkAvailable_eq_ok {v : Json} {available : {d : Dict (Matching isFingerprint) //
      ∀ item ∈ d.items, isMigrationKey item.1 = true}} :
    checkAvailable py v = .ok available ↔
      v.asDict? = some (available.val.mapValues fun f => .str f.val) := by
  rw [checkAvailable, bind_eq_ok]
  simp only [object_eq_ok, attach_eq_ok, mapValues_eq_ok_of_iff (checkFingerprint_eq_ok py)]
  constructor
  · rintro ⟨entries, hentries, rfl, -⟩
    exact hentries
  · intro h
    exact ⟨_, h, rfl, available.property⟩

/-- The applied migrations that are accepted. -/
theorem checkApplied_eq_ok {v : Json}
    {applied : {l : List String // l.Nodup ∧ ∀ key ∈ l, isMigrationKey key = true}} :
    checkApplied v = .ok applied ↔ v = .arr (applied.val.map .str) := by
  rw [checkApplied]
  simp only [bind_eq_ok, array_eq_ok, mapM_eq_ok_of_iff fun v s => text_eq_ok]
  constructor
  · rintro ⟨items, rfl, texts, rfl, h⟩
    split_ifs at h with hnodup hkeys
    cases h
    rw [List.map_map]
    rfl
  · rintro rfl
    obtain ⟨keys, hnodup, hkeys⟩ := applied
    refine ⟨_, rfl, keys.map fun key => ⟨key, rfl⟩, ?_, ?_⟩
    · rw [List.map_map]
      rfl
    · have hback : (keys.map fun key => (⟨key, rfl⟩ : Matching fun _ => true)).map Subtype.val =
          keys := by
        rw [List.map_map]
        exact List.map_id keys
      simp only [hback]
      rw [dif_pos hnodup, dif_pos hkeys]

/-- The lists of migrations that are accepted. -/
theorem checkRelated_eq_ok (name migrationKey : String) (v : Json)
    (keys : List (Matching isMigrationKey)) :
    checkRelated name migrationKey v = .ok keys ↔ True ∧ v = jsonOfKeys keys := by
  rw [checkRelated, bind_eq_ok, true_and]
  simp only [array_eq_ok, mapM_eq_ok_of_iff fun v s => text_eq_ok, exists_eq_right, jsonOfKeys]

/-- The graphs that are accepted. -/
theorem checkGraph_eq_ok {name : String} {available : Dict (Matching isFingerprint)} {v : Json}
    {graph : {g : Dict (List (Matching isMigrationKey)) //
      HasKeys g (available.items.map Prod.fst)}} :
    checkGraph name available v = .ok graph ↔
      v.asDict? = some (graph.val.mapValues jsonOfKeys) := by
  rw [checkGraph]
  simp only [bind_eq_ok, object_eq_ok]
  have hvalues : ∀ d : Dict Json, mapValues (checkRelated name) d = .ok graph.val ↔
      d = graph.val.mapValues jsonOfKeys := by
    intro d
    rw [mapValues_eq_ok_of_iff (checkRelated_eq_ok name)]
    exact and_iff_left fun _ _ => trivial
  constructor
  · rintro ⟨d, hd, h⟩
    split_ifs at h with hkeys
    rw [hd, (hvalues d).mp (attach_eq_ok.mp h)]
  · intro h
    have hkeys : HasKeys (graph.val.mapValues jsonOfKeys) (available.items.map Prod.fst) := by
      have hsame : (graph.val.mapValues jsonOfKeys).items.map Prod.fst =
          graph.val.items.map Prod.fst := List.map_map
      rw [HasKeys, hsame]
      exact graph.property
    refine ⟨_, h, ?_⟩
    rw [dif_pos hkeys, attach_eq_ok]
    exact (hvalues _).mpr rfl

/-- The inventories that are accepted: what names the stage and the commit, and is written in the
value. -/
theorem validateInventory_eq_ok {stage checkoutSha : String} {v : Json} {i : CollectedInventory} :
    validateInventory py stage checkoutSha v = .ok i ↔
      i.stage = stage ∧ i.checkoutSha = checkoutSha ∧ ∃ d, v.asDict? = some d ∧ i.IsIn d := by
  rw [validateInventory]
  simp only [bind_eq_ok, object_eq_ok, checkKeys_eq_ok, ensure_eq_ok, isText_eq_true,
    checkAvailable_eq_ok, checkApplied_eq_ok, checkGraph_eq_ok, array_eq_ok, mapM_eq_ok,
    checkVcsDependency_eq_ok]
  constructor
  · rintro ⟨d, hd, _, hkeys, _, hstage, _, hsha, available, havailable, applied, happlied,
      dependencies, hdependencies, replacements, hreplacements, vs, hvs, vcsDependencies, hvcs,
      hpure⟩
    cases hpure
    exact ⟨rfl, rfl, d, hd, hkeys, hstage, hsha, havailable, happlied, hdependencies,
      hreplacements, vs, hvs, hvcs⟩
  · rintro ⟨rfl, rfl, d, hd, h⟩
    obtain ⟨vs, hvs, hvcs⟩ := h.vcsDependencies
    exact ⟨d, hd, (), h.keys, (), h.stage, (), h.checkoutSha,
      ⟨i.available, i.isMigrationKey_available⟩, h.available,
      ⟨i.applied, i.nodup_applied, i.isMigrationKey_applied⟩, h.applied,
      ⟨i.dependencies, i.keys_dependencies⟩, h.dependencies,
      ⟨i.replacements, i.keys_replacements⟩, h.replacements, vs, hvs, _, hvcs, rfl⟩

end Accepted

/-! ## The provenance of dependencies -/

section Provenance

/-- `VcsProvenanceViolation`. -/
structure VcsProvenanceViolation where
  distribution : String
  reason : String
  deriving DecidableEq, Repr

/-- `VcsProvenanceViolation.message`. -/
def VcsProvenanceViolation.message (py : Python) (violation : VcsProvenanceViolation) : String :=
  "VCS dependency " ++ repr py violation.distribution ++ ": " ++ violation.reason

/-- What is wrong with a requested revision. -/
def revisionReason (commitId : String) : Json → Option String
  | .str requestedRevision =>
    if requestedRevision = "" then some "requested revision is missing"
    else if isGitSha requestedRevision = true then
      if requestedRevision.toLower ≠ commitId.toLower then
        some "requested commit does not match the resolved commit"
      else none
    else some "requested revision must be a full Git SHA"
  | _ => some "requested revision is missing"

/-- What is wrong with a dependency of an immutable stage. -/
def provenanceReason (dependency : Dict Json) : Option String :=
  match field dependency "editable" with
  | .bool true => some "editable installs are not permitted"
  | _ =>
    if isText "git" (field dependency "vcs") = true then
      match field dependency "commit_id" with
      | .str commitId =>
        if isGitSha commitId = true then
          revisionReason commitId (field dependency "requested_revision")
        else some "resolved commit is missing or is not a full Git SHA"
      | _ => some "resolved commit is missing or is not a full Git SHA"
    else some "only Git dependencies are supported for immutable-stage validation"

/-- The violation of a dependency, if there is one. -/
def provenanceViolation (v : Json) : Except String (Option VcsProvenanceViolation) := do
  let dependency ← object "inventory VCS dependency must be an object" v
  let distribution :=
    match field dependency "distribution" with
    | .str s => s
    | _ => "unknown"
  return (provenanceReason dependency).map fun reason => ⟨distribution, reason⟩

/-- `validate_vcs_provenance`. -/
def validateVcsProvenance (inventory : Dict Json) (policy : UpgradePolicy) :
    Except String (List VcsProvenanceViolation) := do
  let stage ← text (fun _ => true) "inventory stage must be a string" (field inventory "stage")
  if stage.val ∈ policy.immutableVcsStages.map Subtype.val then do
    let dependencies ← array "inventory vcs_dependencies must be an array"
      (field inventory "vcs_dependencies")
    let violations ← dependencies.mapM provenanceViolation
    return Canonical.sorted
      (fun violation => toLex (violation.distribution.toLower, violation.reason))
      (violations.filterMap id)
  else return []

/-- A dependency that always leads to the same sources. -/
structure VcsDependency.IsPinned (dependency : VcsDependency) : Prop where
  editable : dependency.editable = false
  vcs : dependency.vcs.val = "git"
  requestedRevision : ∃ revision, dependency.requestedRevision = some revision ∧
    isGitSha revision.val = true ∧ revision.val.toLower = dependency.commitId.val.toLower

/-- The commit of a Git dependency is a full one. -/
theorem VcsDependency.isGitSha_commitId {dependency : VcsDependency}
    (hvcs : dependency.vcs.val = "git") : isGitSha dependency.commitId.val = true := by
  have hcommit := dependency.commitId.property
  rwa [isCommit, if_pos hvcs] at hcommit

/-- A requested revision is all right exactly if it is the full commit. -/
theorem revisionReason_eq_none {commitId : String} {requested : Option (Matching isProvenanceRef)} :
    revisionReason commitId (jsonOfOption requested) = none ↔ ∃ revision,
      requested = some revision ∧ isGitSha revision.val = true ∧
        revision.val.toLower = commitId.toLower := by
  rcases requested with _ | revision
  · simp [jsonOfOption, revisionReason]
  · have hne : revision.val ≠ "" := by
      intro hempty
      have hword := revision.property
      rw [hempty] at hword
      cases hword
    rw [jsonOfOption, revisionReason, if_neg hne]
    split_ifs with hsha hlower
    · simp [hlower]
    · simp [hsha, not_not.mp hlower]
    · simp [hsha]

/-- Nothing is wrong with a dependency exactly if it is pinned. -/
theorem VcsDependency.IsIn.provenanceReason_eq_none {dependency : VcsDependency} {d : Dict Json}
    (h : dependency.IsIn d) : provenanceReason d = none ↔ dependency.IsPinned := by
  rw [provenanceReason, h.editable, h.vcs, h.commitId, h.requestedRevision]
  cases heditable : dependency.editable with
  | true =>
      refine iff_of_false (by simp) fun hpinned => ?_
      rw [hpinned.editable] at heditable
      cases heditable
  | false =>
      dsimp only
      by_cases hvcs : dependency.vcs.val = "git"
      · rw [if_pos (isText_eq_true.mpr (congrArg Json.str hvcs)), if_pos (isGitSha_commitId hvcs),
          revisionReason_eq_none]
        exact ⟨fun hrevision => ⟨heditable, hvcs, hrevision⟩, IsPinned.requestedRevision⟩
      · rw [if_neg fun htrue => hvcs (Json.str.inj (isText_eq_true.mp htrue))]
        exact iff_of_false (by simp) fun hpinned => hvcs hpinned.vcs

/-- A sorted list has no members exactly if there are none to sort. -/
theorem sorted_eq_nil {α κ : Type} [LinearOrder κ] {key : α → κ} {xs : List α} :
    Canonical.sorted key xs = [] ↔ xs = [] := by
  simp only [List.eq_nil_iff_forall_not_mem, Canonical.mem_sorted]

/-- The violations of the dependencies, one by one. -/
theorem mapM_provenanceViolation {vs : List Json} {dependencies : List VcsDependency}
    (h : List.Forall₂ (fun v dependency => ∃ d, v.asDict? = some d ∧ dependency.IsIn d) vs
      dependencies) :
    ∃ violations, vs.mapM provenanceViolation = .ok violations ∧
      (violations.filterMap id = [] ↔ ∀ dependency ∈ dependencies, dependency.IsPinned) := by
  induction h with
  | nil => exact ⟨[], rfl, by simp⟩
  | @cons v dependency vs dependencies hhead _ ih =>
      obtain ⟨d, hd, hin⟩ := hhead
      obtain ⟨violations, hviolations, hpinned⟩ := ih
      have hone : ∃ o, provenanceViolation v = .ok o ∧ (o = none ↔ dependency.IsPinned) := by
        rw [provenanceViolation, object, hd]
        refine ⟨_, rfl, ?_⟩
        rw [Option.map_eq_none_iff]
        exact hin.provenanceReason_eq_none
      obtain ⟨o, ho, hnone⟩ := hone
      refine ⟨o :: violations, ?_, ?_⟩
      · rw [List.mapM_cons, ho, hviolations]
        rfl
      · rw [List.forall_mem_cons, ← hpinned, ← hnone]
        rcases o with _ | violation
        · simp
        · simp

/-- The provenance check of an accepted inventory succeeds. It finds no violation exactly if the
stage may depend on anything, or every dependency is pinned. -/
theorem validateVcsProvenance_eq_nil {i : CollectedInventory} {d : Dict Json} (h : i.IsIn d)
    (policy : UpgradePolicy) : ∃ violations, validateVcsProvenance d policy = .ok violations ∧
      (violations = [] ↔ (i.stage ∈ policy.immutableVcsStages.map Subtype.val →
        ∀ dependency ∈ i.vcsDependencies, dependency.IsPinned)) := by
  have hstage : text (fun _ => true) "inventory stage must be a string" (field d "stage") =
      .ok ⟨i.stage, rfl⟩ := text_eq_ok.mpr h.stage
  obtain ⟨vs, hvs, hdependencies⟩ := h.vcsDependencies
  obtain ⟨violations, hviolations, hpinned⟩ := mapM_provenanceViolation hdependencies
  rw [validateVcsProvenance, hstage, hvs]
  by_cases himmutable : i.stage ∈ policy.immutableVcsStages.map Subtype.val
  · refine ⟨Canonical.sorted (fun violation => toLex (violation.distribution.toLower,
      violation.reason)) (violations.filterMap id), ?_, ?_⟩
    · refine (if_pos himmutable).trans ?_
      exact bind_eq_ok.mpr ⟨vs, rfl, bind_eq_ok.mpr ⟨violations, hviolations, rfl⟩⟩
    · rw [sorted_eq_nil, hpinned]
      exact ⟨fun hall _ => hall, fun hall => hall himmutable⟩
  · exact ⟨[], if_neg himmutable, iff_of_true rfl fun hin => absurd hin himmutable⟩

end Provenance

/-! ## The collector -/

section Collector

/-- A migration on disk. Migrations are named by their app and their own name. -/
structure DiskMigration where
  key : String × String
  dependencies : List (String × String)
  replaces : List (String × String)
  /-- `__file__` of its module. -/
  file : Option String

/-- An installed distribution. -/
structure Distribution where
  /-- The text of `direct_url.json`. -/
  directUrl : Option String
  name : Option String

/-- What the collector finds in the environment of a stage. -/
structure StageEnvironment where
  diskMigrations : List DiskMigration
  nodup_diskMigrations : (diskMigrations.map DiskMigration.key).Nodup
  /-- The label of an app is an identifier. -/
  dot_notMem : ∀ m ∈ diskMigrations, '.' ∉ m.key.1.toList
  appliedMigrations : List (String × String)
  distributions : List Distribution
  isFile : String → Bool
  /-- The SHA-256 digest of a file. -/
  sha256 : String → Matching isFingerprint
  /-- What `json.loads` says of a text that it does not decode. -/
  decodingError : String → String

/-- `_migration_key`. -/
def migrationKey (key : String × String) : String := key.1 ++ "." ++ key.2

/-- `path.suffix`: the extension of the last component, unless the name only starts with a dot or
ends in one. -/
def pathSuffix (path : String) : String :=
  let name := path.toList.reverse.takeWhile (· ≠ '/')
  match name.takeWhile (· ≠ '.'), name.dropWhile (· ≠ '.') with
  | [], _ => ""
  | extension, _ :: _ :: _ => String.ofList ('.' :: extension.reverse)
  | _, _ => ""

section Environment

variable (py : Python) (env : StageEnvironment)

/-- `_migration_source_path`. -/
def sourcePath (migration : DiskMigration) : Except String String :=
  let name := migrationKey migration.key
  let check (path : String) : Except String String :=
    if pathSuffix path ≠ ".py" then
      .error ("Migration " ++ name ++ " source file is not Python source: " ++ path)
    else if env.isFile path = true then .ok path
    else .error ("Migration " ++ name ++ " source file does not exist: " ++ path)
  match migration.file with
  | none => .error ("Migration " ++ name ++ " has no source file")
  | some "" => .error ("Migration " ++ name ++ " has no source file")
  | some path =>
    -- A compiled module stands for its source.
    if pathSuffix path = ".pyc" then check (String.ofList path.toList.dropLast) else check path

/-- `distribution.metadata.get("Name") or "unknown"`. -/
def Distribution.nameOrUnknown (distribution : Distribution) : String :=
  match distribution.name with
  | none => "unknown"
  | some name => if name = "" then "unknown" else name

/-- The decoded `direct_url.json`. -/
def decodeDirectUrl (name directUrlText : String) : Except String (Dict Json) :=
  match py.loads directUrlText with
  | some v => object ("Invalid direct_url.json for " ++ name ++ ": expected an object") v
  | none => .error ("Invalid direct_url.json for " ++ name ++ ": " ++
      env.decodingError directUrlText)

/-- The `editable` flag in the `dir_info` of a dependency. -/
def editableFlag (name : String) (directUrl : Dict Json) : Except String Bool := do
  let dirInfo ← object ("VCS metadata for " ++ name ++ " has invalid dir_info")
    ((directUrl.get? "dir_info").getD (.obj []))
  boolean ("VCS metadata for " ++ name ++ " has an invalid editable flag")
    ((dirInfo.get? "editable").getD (.bool false))

/-- The dependency that a `vcs_info` describes. -/
def dependencyOf (name : Matching isDistribution) (directUrl : Dict Json) (vcsInfo : Json) :
    Except String VcsDependency := do
  let vcsInfo ← object ("Invalid VCS metadata for " ++ name.val) vcsInfo
  let vcs ← text isVcs ("VCS metadata for " ++ name.val ++ " has no safe VCS type")
    (field vcsInfo "vcs")
  let commitId ← text (isCommit vcs.val) ("VCS metadata for " ++ name.val ++ " has no commit_id")
    (field vcsInfo "commit_id")
  let requestedRevision ← optionalText isProvenanceRef
    ("VCS metadata for " ++ name.val ++ " has an unsafe requested_revision")
    (field vcsInfo "requested_revision")
  let editable ← editableFlag name.val directUrl
  return { distribution := name, vcs, requestedRevision, commitId, editable }

/-- One turn of the loop of `_vcs_dependencies`. -/
def vcsDependency (distribution : Distribution) : Except String (Option VcsDependency) := do
  let directUrlText := distribution.directUrl.getD ""
  if directUrlText = "" then return none
  let name ← matching isDistribution "VCS metadata has an unsafe distribution name"
    distribution.nameOrUnknown
  let directUrl ← decodeDirectUrl py env name.val directUrlText
  match Dict.value? directUrl "vcs_info" with
  | none => return none
  | some vcsInfo => some <$> dependencyOf name directUrl vcsInfo

/-- `_vcs_dependencies`. -/
def vcsDependencies : Except String (List VcsDependency) := do
  let dependencies ← env.distributions.mapM (vcsDependency py env)
  return Canonical.sorted
    (fun dependency => toLex (dependency.distribution.val.toLower, dependency.commitId.val))
    (dependencies.filterMap id)

/-- The entries of a dependency. -/
def VcsDependency.members (dependency : VcsDependency) : List (String × Json) :=
  [("distribution", .str dependency.distribution.val), ("vcs", .str dependency.vcs.val),
    ("requested_revision", jsonOfOption dependency.requestedRevision),
    ("commit_id", .str dependency.commitId.val), ("editable", .bool dependency.editable)]

/-- The migrations on disk, in the order of their keys. -/
def StageEnvironment.sortedMigrations : List DiskMigration :=
  Canonical.sorted (fun migration => toLex migration.key) env.diskMigrations

/-- A sorted list of migration keys. -/
def sortedKeys (keys : List (String × String)) : List String :=
  Canonical.sorted id (keys.map migrationKey)

/-- The related migrations of every migration. -/
def graphOf (related : DiskMigration → List (String × String)) : Dict Json :=
  Dict.ofList (env.sortedMigrations.map fun migration =>
    (migrationKey migration.key, .arr ((sortedKeys (related migration)).map .str)))

/-- The entries of an inventory. -/
def inventoryMembers (stage checkoutSha : String) (available : Dict (Matching isFingerprint))
    (vcs : List VcsDependency) : List (String × Json) :=
  [("stage", .str stage), ("checkout_sha", .str checkoutSha),
    ("available", .obj (available.items.map fun item => (item.1, .str item.2.val))),
    ("applied", .arr ((sortedKeys env.appliedMigrations).map .str)),
    ("dependencies", .obj (graphOf env DiskMigration.dependencies).items),
    ("replacements", .obj (graphOf env DiskMigration.replaces).items),
    ("vcs_dependencies", .arr (vcs.map fun dependency => .obj dependency.members))]

/-- `build_inventory`. -/
def buildInventory (stage checkoutSha : String) : Except String Json := do
  ensure (isStageName stage = true) ("Invalid stage name: " ++ repr py stage)
  ensure (isCheckoutSha checkoutSha = true) ("Invalid checkout SHA: " ++ repr py checkoutSha)
  let available ← env.sortedMigrations.mapM fun migration =>
    (fun path => (migrationKey migration.key, env.sha256 path)) <$> sourcePath env migration
  let vcs ← vcsDependencies py env
  return .obj (inventoryMembers env stage checkoutSha (Dict.ofList available) vcs)

end Environment

/-- The names of the migrations are regular: each is a label and a name with a dot between them, and
no two applied migrations have the same one. -/
structure StageEnvironment.IsRegular (env : StageEnvironment) : Prop where
  keys : ∀ m ∈ env.diskMigrations, isMigrationKey (migrationKey m.key) = true
  dependencies : ∀ m ∈ env.diskMigrations, ∀ key ∈ m.dependencies,
    isMigrationKey (migrationKey key) = true
  replaces : ∀ m ∈ env.diskMigrations, ∀ key ∈ m.replaces,
    isMigrationKey (migrationKey key) = true
  applied : ∀ key ∈ env.appliedMigrations, isMigrationKey (migrationKey key) = true
  nodup_applied : (env.appliedMigrations.map migrationKey).Nodup

variable {py : Python} {env : StageEnvironment}

/-- The value of a member of an object without repeated names. -/
theorem field_ofList {members : List (String × Json)} (h : (members.map Prod.fst).Nodup)
    (key : String) : field (Dict.ofList members) key =
      ((members.find? (·.1 = key)).map (·.2)).getD .null := by
  rw [field, Dict.get?, Dict.items_ofList h]

/-- A dependency is written in its entries. -/
theorem VcsDependency.isIn_members (dependency : VcsDependency) :
    dependency.IsIn (Dict.ofList dependency.members) := by
  have hnodup : (dependency.members.map Prod.fst).Nodup := by
    show vcsKeys.Nodup
    decide
  constructor
  · rw [HasKeys, Dict.items_ofList hnodup]
    exact ⟨fun key hkey => hkey, fun key hkey => hkey⟩
  all_goals exact field_ofList hnodup _

/-- A list of texts is one of migration keys exactly if each of them is a key. -/
theorem exists_jsonOfKeys {texts : List String} :
    (∃ keys, Json.arr (texts.map .str) = jsonOfKeys keys) ↔
      ∀ s ∈ texts, isMigrationKey s = true := by
  constructor
  · rintro ⟨keys, hkeys⟩ s hs
    have hmem : Json.str s ∈ keys.map fun key => Json.str key.val := by
      rw [← Json.arr.inj hkeys]
      exact List.mem_map_of_mem hs
    obtain ⟨key, -, hkey⟩ := List.mem_map.mp hmem
    rw [← Json.str.inj hkey]
    exact key.property
  · intro h
    refine ⟨texts.pmap Subtype.mk h, ?_⟩
    rw [jsonOfKeys, List.map_pmap, List.pmap_eq_map]

/-- The sorted keys have a property that all keys have. -/
theorem forall_mem_sortedKeys {keys : List (String × String)} {P : String → Prop} :
    (∀ s ∈ sortedKeys keys, P s) ↔ ∀ key ∈ keys, P (migrationKey key) := by
  simp only [sortedKeys, Canonical.mem_sorted, List.forall_mem_map]

/-- The keys of migrations whose apps have no dot in their labels differ. -/
theorem migrationKey_injOn {key key' : String × String} (h : '.' ∉ key.1.toList)
    (h' : '.' ∉ key'.1.toList) (heq : migrationKey key = migrationKey key') : key = key' := by
  have hlists := congrArg String.toList heq
  simp only [migrationKey, String.toList_append, List.append_assoc] at hlists
  obtain ⟨hfst, hsnd⟩ := Text.append_cons_inj_of_notMem h h' hlists
  exact Prod.ext (Text.toList_injective hfst) (Text.toList_injective hsnd)

/-- Every migration on disk has its own key. -/
theorem nodup_map_migrationKey (env : StageEnvironment) :
    (env.sortedMigrations.map fun m => migrationKey m.key).Nodup := by
  have hperm : env.sortedMigrations.Perm env.diskMigrations := List.perm_insertionSort _ _
  apply (hperm.map _).nodup_iff.mpr
  have hnodup : env.diskMigrations.Pairwise fun a b => a.key ≠ b.key :=
    List.pairwise_map.mp env.nodup_diskMigrations
  apply List.pairwise_map.mpr
  exact hnodup.imp_of_mem fun ha hb hne heq =>
    hne (migrationKey_injOn (env.dot_notMem _ ha) (env.dot_notMem _ hb) heq)

/-- The entries of a graph. -/
theorem items_graphOf (env : StageEnvironment)
    (related : DiskMigration → List (String × String)) :
    (graphOf env related).items = env.sortedMigrations.map fun migration =>
      (migrationKey migration.key, .arr ((sortedKeys (related migration)).map .str)) := by
  rw [graphOf, Dict.items_ofList]
  rw [List.map_map]
  exact nodup_map_migrationKey env

/-- A graph is one of migration keys exactly if every related migration has a key. -/
theorem exists_graph (related : DiskMigration → List (String × String)) :
    (∃ g : Dict (List (Matching isMigrationKey)), graphOf env related = g.mapValues jsonOfKeys) ↔
      ∀ m ∈ env.diskMigrations, ∀ key ∈ related m, isMigrationKey (migrationKey key) = true := by
  rw [exists_eq_mapValues, items_graphOf]
  simp only [List.forall_mem_map, exists_jsonOfKeys, forall_mem_sortedKeys,
    StageEnvironment.sortedMigrations, Canonical.mem_sorted]

/-- The dictionary of an object is the one that it has been written from. -/
theorem asDict?_items (d : Dict Json) : (Json.obj d.items).asDict? = some d :=
  congrArg some (Dict.ext (Dict.items_ofList d.nodup))

/-- The migrations that are available have the keys of those on disk. -/
theorem map_fst_available {available : List (String × Matching isFingerprint)}
    (h : env.sortedMigrations.mapM (fun migration =>
      (fun path => (migrationKey migration.key, env.sha256 path)) <$> sourcePath env migration) =
        .ok available) :
    available.map Prod.fst = env.sortedMigrations.map fun m => migrationKey m.key := by
  have hitems := mapM_eq_ok.mp h
  clear h
  generalize env.sortedMigrations = migrations at hitems
  induction hitems with
  | nil => rfl
  | cons hitem _ ih =>
      obtain ⟨path, -, rfl⟩ := map_eq_ok.mp hitem
      rw [List.map_cons, List.map_cons, ih]

section Written

variable (env) (stage checkoutSha : String) (available : Dict (Matching isFingerprint))
  (vcs : List VcsDependency)

/-- The object that the collector writes. -/
def inventoryObject : Dict Json :=
  Dict.ofList (inventoryMembers env stage checkoutSha available vcs)

/-- No entry is written twice. -/
theorem nodup_inventoryMembers :
    ((inventoryMembers env stage checkoutSha available vcs).map Prod.fst).Nodup := by
  show inventoryKeys.Nodup
  decide

variable {env stage checkoutSha available vcs}

/-- The entries of the object, one by one. -/
theorem field_inventoryObject (key : String) :
    field (inventoryObject env stage checkoutSha available vcs) key =
      (((inventoryMembers env stage checkoutSha available vcs).find? (·.1 = key)).map
        (·.2)).getD .null :=
  field_ofList (nodup_inventoryMembers env stage checkoutSha available vcs) key

/-- The fingerprints are written. -/
theorem asDict?_available :
    (field (inventoryObject env stage checkoutSha available vcs) "available").asDict? =
      some (available.mapValues fun f => .str f.val) := by
  rw [field_inventoryObject]
  exact asDict?_items (available.mapValues fun f => .str f.val)

/-- The graphs are written. -/
theorem asDict?_graphs :
    (field (inventoryObject env stage checkoutSha available vcs) "dependencies").asDict? =
        some (graphOf env DiskMigration.dependencies) ∧
      (field (inventoryObject env stage checkoutSha available vcs) "replacements").asDict? =
        some (graphOf env DiskMigration.replaces) := by
  rw [field_inventoryObject, field_inventoryObject]
  exact ⟨asDict?_items _, asDict?_items _⟩

/-- An inventory that is written there comes from regular names. -/
theorem isRegular_of_isIn
    (hkeys : available.items.map Prod.fst = env.sortedMigrations.map fun m => migrationKey m.key)
    {i : CollectedInventory}
    (h : i.IsIn (inventoryObject env stage checkoutSha available vcs)) : env.IsRegular := by
  have havailable : i.available.items.map Prod.fst = available.items.map Prod.fst := by
    have hsame := Option.some.inj (h.available.symm.trans asDict?_available)
    have hfst := congrArg (fun d : Dict Json => d.items.map Prod.fst) hsame
    simpa [Dict.mapValues, Function.comp_def] using hfst
  have happlied : i.applied = sortedKeys env.appliedMigrations := by
    have hwritten := h.applied.symm.trans (field_inventoryObject "applied")
    exact List.map_injective_iff.mpr (fun a b => Json.str.inj) (Json.arr.inj hwritten)
  constructor
  · intro m hm
    have hmem : migrationKey m.key ∈ i.available.items.map Prod.fst := by
      rw [havailable, hkeys]
      exact List.mem_map.mpr ⟨m, Canonical.mem_sorted.mpr hm, rfl⟩
    obtain ⟨item, hitem, hkey⟩ := List.mem_map.mp hmem
    rw [← hkey]
    exact i.isMigrationKey_available item hitem
  · exact exists_graph _ |>.mp
      ⟨i.dependencies, Option.some.inj (asDict?_graphs.1.symm.trans h.dependencies)⟩
  · exact exists_graph _ |>.mp
      ⟨i.replacements, Option.some.inj (asDict?_graphs.2.symm.trans h.replacements)⟩
  · rw [← forall_mem_sortedKeys (P := fun s => isMigrationKey s = true), ← happlied]
    exact i.isMigrationKey_applied
  · have hperm : (sortedKeys env.appliedMigrations).Perm
        (env.appliedMigrations.map migrationKey) := List.perm_insertionSort _ _
    rw [← hperm.nodup_iff, ← happlied]
    exact i.nodup_applied

/-- The keys of a graph are those of the available migrations. -/
theorem hasKeys_of_graph
    (hkeys : available.items.map Prod.fst = env.sortedMigrations.map fun m => migrationKey m.key)
    {related : DiskMigration → List (String × String)}
    {g : Dict (List (Matching isMigrationKey))}
    (h : graphOf env related = g.mapValues jsonOfKeys) :
    HasKeys g (available.items.map Prod.fst) := by
  have hfst : g.items.map Prod.fst = available.items.map Prod.fst := by
    have hitems := congrArg (fun d : Dict Json => d.items.map Prod.fst) h
    simp only [items_graphOf] at hitems
    rw [hkeys]
    simpa [Dict.mapValues, Function.comp_def] using hitems.symm
  rw [HasKeys, hfst]
  exact ⟨fun key hkey => hkey, fun key hkey => hkey⟩

/-- Regular names are those of an inventory, and it is written there. -/
theorem exists_isIn_of_isRegular
    (hkeys : available.items.map Prod.fst = env.sortedMigrations.map fun m => migrationKey m.key)
    (h : env.IsRegular) : ∃ i : CollectedInventory, i.stage = stage ∧ i.checkoutSha = checkoutSha ∧
      i.IsIn (inventoryObject env stage checkoutSha available vcs) := by
  obtain ⟨dependencies, hdependencies⟩ := (exists_graph _).mpr h.dependencies
  obtain ⟨replacements, hreplacements⟩ := (exists_graph _).mpr h.replaces
  have havailable : ∀ item ∈ available.items, isMigrationKey item.1 = true := by
    intro item hitem
    have hmem : item.1 ∈ env.sortedMigrations.map fun m => migrationKey m.key := by
      rw [← hkeys]
      exact List.mem_map_of_mem hitem
    obtain ⟨m, hm, hkey⟩ := List.mem_map.mp hmem
    rw [← hkey]
    exact h.keys m (Canonical.mem_sorted.mp hm)
  have hnodup : (sortedKeys env.appliedMigrations).Nodup :=
    (List.perm_insertionSort _ _).nodup_iff.mpr h.nodup_applied
  let i : CollectedInventory :=
    { stage, checkoutSha, available, dependencies, replacements
      applied := sortedKeys env.appliedMigrations
      vcsDependencies := vcs
      isMigrationKey_available := havailable
      isMigrationKey_applied := forall_mem_sortedKeys.mpr h.applied
      nodup_applied := hnodup
      keys_dependencies := hasKeys_of_graph hkeys hdependencies
      keys_replacements := hasKeys_of_graph hkeys hreplacements }
  refine ⟨i, rfl, rfl, ?_, ?_, ?_, asDict?_available, ?_, ?_, ?_, ?_⟩
  · rw [HasKeys, inventoryObject, Dict.items_ofList (nodup_inventoryMembers ..)]
    exact ⟨fun key hkey => hkey, fun key hkey => hkey⟩
  · exact field_inventoryObject _
  · exact field_inventoryObject _
  · exact field_inventoryObject _
  · rw [asDict?_graphs.1, hdependencies]
  · rw [asDict?_graphs.2, hreplacements]
  · refine ⟨_, field_inventoryObject _, ?_⟩
    rw [List.forall₂_map_left_iff]
    exact List.forall₂_same.mpr fun dependency _ => ⟨_, rfl, dependency.isIn_members⟩

end Written

/-- What the collector writes for a stage and a commit is accepted for them exactly if the names of
the migrations are regular. The dependencies from version control never stand in the way. -/
theorem validateInventory_buildInventory {stage checkoutSha : String} {v : Json}
    (h : buildInventory py env stage checkoutSha = .ok v) :
    (∃ i, validateInventory py stage checkoutSha v = .ok i) ↔ env.IsRegular := by
  rw [buildInventory] at h
  simp only [bind_eq_ok, ensure_eq_ok] at h
  obtain ⟨_, hstage, _, hsha, available, havailable, vcs, hvcs, hpure⟩ := h
  cases hpure
  -- The sorted migrations have different keys, so the object of their fingerprints has them all.
  have hkeys : (Dict.ofList available).items.map Prod.fst =
      env.sortedMigrations.map fun m => migrationKey m.key := by
    have hfst := map_fst_available havailable
    rwa [Dict.items_ofList]
    rw [hfst]
    exact nodup_map_migrationKey env
  simp only [validateInventory_eq_ok]
  constructor
  · rintro ⟨i, -, -, d, hd, hin⟩
    cases hd
    exact isRegular_of_isIn hkeys hin
  · intro hregular
    obtain ⟨i, hi, hi', hin⟩ := exists_isIn_of_isRegular hkeys hregular
    exact ⟨i, hi, hi', _, rfl, hin⟩

end Collector

/-! ## A stage -/

/-- An interpreter that prints ASCII. -/
def plainPython : Python where
  isPrintable c := decide (32 ≤ c.toNat ∧ c.toNat < 127)
  isPrintable_ge := fun _ h => (of_decide_eq_true h).1
  readNumber n := n
  readNumber_readNumber _ := rfl
  fits_readNumber _ h := h
  numberEq n m := n.literal == m.literal
  numberEq_self _ _ := beq_self_eq_true _
  numberEq_comm _ _ := Bool.beq_comm

/-- A commit. -/
def sampleSha : String := String.ofList (List.replicate 40 'c')

/-- A stage with two migrations, the first of which is applied. -/
def sampleEnvironment : StageEnvironment where
  diskMigrations :=
    [⟨("core", "0002_more"), [("core", "0001_initial")], [], some "/app/core/0002_more.pyc"⟩,
      ⟨("core", "0001_initial"), [], [], some "/app/core/0001_initial.py"⟩]
  nodup_diskMigrations := by decide
  dot_notMem := by decide
  appliedMigrations := [("core", "0001_initial")]
  distributions := [⟨none, some "Django"⟩]
  isFile _ := true
  sha256 _ := ⟨String.ofList (List.replicate 64 'a'), by decide⟩
  decodingError _ := "Expecting value"

/-- Its names are regular. -/
theorem isRegular_sampleEnvironment : sampleEnvironment.IsRegular where
  keys := by decide
  dependencies := by decide
  replaces := by decide
  applied := by decide
  nodup_applied := by decide

/-- What is collected there is accepted. -/
theorem validateInventory_buildInventory_sample :
    ∃ v, buildInventory plainPython sampleEnvironment "v2.5" sampleSha = .ok v ∧
      ((∃ i, validateInventory plainPython "v2.5" sampleSha v = .ok i) ↔
        sampleEnvironment.IsRegular) ∧ sampleEnvironment.IsRegular := by
  have hbuild : buildInventory plainPython sampleEnvironment "v2.5" sampleSha = .ok _ := rfl
  exact ⟨_, hbuild, validateInventory_buildInventory hbuild, isRegular_sampleEnvironment⟩

/-- A dependency that is installed from a working tree. -/
def editableDependency : VcsDependency where
  distribution := ⟨"django-ansible-base", by decide⟩
  vcs := ⟨"git", by decide⟩
  requestedRevision := some ⟨"devel", by decide⟩
  commitId := ⟨sampleSha, by decide⟩
  editable := true

/-- A policy with an immutable stage. -/
def immutablePolicy : UpgradePolicy where
  enforcedApps := []
  allowedMissing := []
  allowedFingerprintChanges := []
  immutableVcsStages := [⟨"v2.5", by decide⟩]

/-- The provenance of the dependency is checked. -/
theorem validateVcsProvenance_eq_nil_sample : ∃ (i : CollectedInventory) (d : Dict Json),
    i.IsIn d ∧ ∃ violations, validateVcsProvenance d immutablePolicy = .ok violations ∧
      (violations = [] ↔ (i.stage ∈ immutablePolicy.immutableVcsStages.map Subtype.val →
        ∀ dependency ∈ i.vcsDependencies, dependency.IsPinned)) := by
  let available := Dict.ofList (sampleEnvironment.sortedMigrations.map fun m =>
    (migrationKey m.key, sampleEnvironment.sha256 ""))
  have hwritten : ∃ i : CollectedInventory, i.stage = "v2.5" ∧ i.checkoutSha = sampleSha ∧
      i.IsIn (inventoryObject sampleEnvironment "v2.5" sampleSha available [editableDependency]) :=
    exists_isIn_of_isRegular rfl isRegular_sampleEnvironment
  obtain ⟨i, -, -, hin⟩ := hwritten
  exact ⟨i, _, hin, validateVcsProvenance_eq_nil hin immutablePolicy⟩

end AapGateway.Tools
