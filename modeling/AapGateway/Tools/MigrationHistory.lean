import Mathlib
import AapGateway.Foundations.Canonical
import AapGateway.Foundations.Text

/-!
# The migration history of an upgrade

The upgrade test migrates one database through a sequence of checkouts. Each stage leaves an
inventory: the migrations that its checkout has, with their fingerprints, and those that the
database has applied. The policy check remembers the first observation of each applied migration
and compares the later stages with it.

## Main definitions

* `inventoryEvents`: the violations and the exceptions of a sequence of stages;
* `IsComplete`: nothing about an applied migration goes unreported, and the report of a stage does
  not depend on the stages that follow;
* `Overlooked`: a migration that its first stage does not have, and later ones have differently.

## Main results

* `mem_eventsFrom`: the events of the stages;
* `isComplete_iff`: the check is complete exactly if no migration of an enforced app is overlooked.
-/

namespace AapGateway.Tools

/-- `STAGE_PATTERN`. -/
def isStageName (name : String) : Bool :=
  match name.toList with
  | [] => false
  | c :: cs => c.isAlphanum && cs.all fun c => c.isAlphanum || c ∈ ['_', '.', '-']

/-- The inventory of a stage. -/
structure Inventory where
  stage : String
  /-- The fingerprints of the migrations. -/
  available : Dict String
  applied : List String
  isStageName_stage : isStageName stage = true

/-- `MigrationPolicy`. -/
structure MigrationPolicy where
  enforcedApps : List String
  allowedMissing : List String
  allowedFingerprintChanges : List String

/-- The kinds of violations. -/
inductive ViolationKind where
  | missing
  | fingerprint
  deriving DecidableEq, Repr

/-- `InventoryViolation`. -/
structure InventoryViolation where
  kind : ViolationKind
  stage : String
  migration : String
  firstStage : String
  firstFingerprint : Option String
  currentFingerprint : Option String
  deriving DecidableEq, Repr

/-- `migration.split(".", 1)[0]`. -/
def appLabel (migration : String) : String :=
  String.ofList (migration.toList.takeWhile (· ≠ '.'))

/-- The migration belongs to an enforced app. -/
def MigrationPolicy.Enforces (policy : MigrationPolicy) (migration : String) : Prop :=
  appLabel migration ∈ policy.enforcedApps

instance (policy : MigrationPolicy) (migration : String) : Decidable (policy.Enforces migration) :=
  inferInstanceAs (Decidable (_ ∈ _))

/-- The exception of a migration that is missing. -/
def missingException (stage migration : String) : String :=
  stage ++ ": allowed missing migration " ++ migration

/-- The exception of a migration that has changed. -/
def changeException (stage migration : String) : String :=
  stage ++ ": allowed fingerprint change for migration " ++ migration

/-- An event is a violation or an exception. -/
abbrev Event := InventoryViolation ⊕ String

/-- The first observations: the stage, and the fingerprint there if it was available. -/
abbrev FirstApplied := Dict (String × Option String)

section Check

variable (policy : MigrationPolicy)

/-- The first observations after a stage. -/
def observe (firstApplied : FirstApplied) (inventory : Inventory) : FirstApplied :=
  (Canonical.sorted id inventory.applied).foldl (fun firstApplied migration =>
    if policy.Enforces migration then
      firstApplied.setDefault migration (inventory.stage, inventory.available.get? migration)
    else firstApplied) firstApplied

/-- The event of a migration at a stage. -/
def checkMigration (inventory : Inventory) (migration : String) (first : String × Option String) :
    Option Event :=
  match inventory.available.get? migration with
  | none =>
    if migration ∈ policy.allowedMissing then
      some (.inr (missingException inventory.stage migration))
    else some (.inl ⟨.missing, inventory.stage, migration, first.1, first.2, none⟩)
  | some current =>
    match first.2 with
    | none => none
    | some fingerprint =>
      if current ≠ fingerprint then
        if migration ∈ policy.allowedFingerprintChanges then
          some (.inr (changeException inventory.stage migration))
        else some (.inl ⟨.fingerprint, inventory.stage, migration, first.1, first.2, some current⟩)
      else none

/-- The events of a stage, in the order of the migrations. -/
def stageEvents (firstApplied : FirstApplied) (inventory : Inventory) : List Event :=
  (Canonical.sorted Prod.fst firstApplied.items).filterMap fun (migration, first) =>
    checkMigration policy inventory migration first

/-- What the check has found so far. -/
structure Findings where
  firstApplied : FirstApplied
  violations : List InventoryViolation
  exceptions : List String

/-- One turn of the loop over the stages. -/
def checkStage (findings : Findings) (inventory : Inventory) : Findings :=
  let firstApplied := observe policy findings.firstApplied inventory
  let events := stageEvents policy firstApplied inventory
  { firstApplied
    violations := findings.violations ++ events.filterMap Sum.getLeft?
    exceptions := findings.exceptions ++ events.filterMap Sum.getRight? }

/-- `_inventory_events`. -/
def inventoryEvents (inventories : List Inventory) : List InventoryViolation × List String :=
  let findings := inventories.foldl (checkStage policy) ⟨Dict.empty, [], []⟩
  (findings.violations, Canonical.sorted id findings.exceptions.dedup)

/-- `compare_inventory_history`. -/
def compareInventoryHistory (inventories : List Inventory) : List InventoryViolation :=
  (inventoryEvents policy inventories).1

/-- `find_policy_exceptions`. -/
def findPolicyExceptions (inventories : List Inventory) : List String :=
  (inventoryEvents policy inventories).2

/-- The violations of a stage, as the upgrade reports them after it. -/
def currentViolations (inventories : List Inventory) (stage : String) : List InventoryViolation :=
  (compareInventoryHistory policy inventories).filter fun item => item.stage = stage

end Check

section Completeness

/-- The stage is the first one that has the migration applied, or a later one. -/
def Since (inventories : List Inventory) (migration : String) (inventory : Inventory) : Prop :=
  ∃ before after, inventories = before ++ inventory :: after ∧
    ∃ earlier ∈ before ++ [inventory], migration ∈ earlier.applied

/-- A violation or an exception names the migration at the stage. -/
def HasEvent (policy : MigrationPolicy) (inventories : List Inventory) (stage migration : String) :
    Prop :=
  (∃ item ∈ compareInventoryHistory policy inventories,
      item.stage = stage ∧ item.migration = migration) ∨
    missingException stage migration ∈ findPolicyExceptions policy inventories ∨
    changeException stage migration ∈ findPolicyExceptions policy inventories

/-- A violation or an exception says that the fingerprint of the migration has changed. -/
def HasFingerprintEvent (policy : MigrationPolicy) (inventories : List Inventory)
    (migration : String) : Prop :=
  (∃ item ∈ compareInventoryHistory policy inventories,
      item.kind = .fingerprint ∧ item.migration = migration) ∨
    ∃ inventory ∈ inventories,
      changeException inventory.stage migration ∈ findPolicyExceptions policy inventories

/-- The check is complete and incremental. -/
structure IsComplete (policy : MigrationPolicy) (inventories : List Inventory) : Prop where
  missing : ∀ migration, policy.Enforces migration → ∀ inventory,
    Since inventories migration inventory → inventory.available.get? migration = none →
      HasEvent policy inventories inventory.stage migration
  changed : ∀ migration, policy.Enforces migration → ∀ inventory inventory',
    Since inventories migration inventory → Since inventories migration inventory' →
      ∀ fingerprint fingerprint', inventory.available.get? migration = some fingerprint →
        inventory'.available.get? migration = some fingerprint' → fingerprint ≠ fingerprint' →
          HasFingerprintEvent policy inventories migration
  incremental : ∀ before inventory after, inventories = before ++ inventory :: after →
    currentViolations policy (before ++ [inventory]) inventory.stage =
      currentViolations policy inventories inventory.stage

/-- The first stage that has the migration applied does not have it available, and two later
stages have it with different fingerprints. -/
def Overlooked (inventories : List Inventory) (migration : String) : Prop :=
  ∃ before first after, inventories = before ++ first :: after ∧
    (∀ earlier ∈ before, migration ∉ earlier.applied) ∧ migration ∈ first.applied ∧
    first.available.get? migration = none ∧
    ∃ inventory ∈ after, ∃ inventory' ∈ after, ∃ fingerprint fingerprint',
      inventory.available.get? migration = some fingerprint ∧
      inventory'.available.get? migration = some fingerprint' ∧ fingerprint ≠ fingerprint'

end Completeness

section Observations

variable {policy : MigrationPolicy} {firstApplied : FirstApplied} {inventories : List Inventory}
  {inventory : Inventory} {migration : String}

/-- The observation of a migration after a stage: the one before, or the one of the stage. -/
theorem get?_observe :
    (observe policy firstApplied inventory).get? migration =
      (firstApplied.get? migration).or
        (if policy.Enforces migration ∧ migration ∈ inventory.applied then
          some (inventory.stage, inventory.available.get? migration) else none) := by
  have hfold : ∀ (migrations : List String) (d : FirstApplied),
      (migrations.foldl (fun d m => if policy.Enforces m then
          d.setDefault m (inventory.stage, inventory.available.get? m) else d) d).get? migration =
        (d.get? migration).or (if policy.Enforces migration ∧ migration ∈ migrations then
          some (inventory.stage, inventory.available.get? migration) else none) := by
    intro migrations
    induction migrations with
    | nil => simp
    | cons m migrations ih =>
        intro d
        rw [List.foldl_cons, ih]
        by_cases hm : migration = m
        · subst hm
          by_cases henforced : policy.Enforces migration
          · simp [henforced, Dict.get?_setDefault]
          · simp [henforced]
        · have hkeep : (if policy.Enforces m then
              d.setDefault m (inventory.stage, inventory.available.get? m) else d).get? migration =
                d.get? migration := by
            split_ifs
            · rw [Dict.get?_setDefault, if_neg hm, Option.or_none]
            · rfl
          simp [hkeep, hm]
  rw [observe, hfold]
  simp

/-- The observation of a migration after some stages is that of the first stage that applied it. -/
theorem get?_foldl_observe :
    (inventories.foldl (observe policy) Dict.empty).get? migration =
      if policy.Enforces migration then
        (inventories.find? fun inventory => migration ∈ inventory.applied).map fun inventory =>
          (inventory.stage, inventory.available.get? migration)
      else none := by
  induction inventories using List.reverseRecOn with
  | nil => simp [Dict.empty, Dict.get?]
  | append_singleton inventories last ih =>
      rw [List.foldl_append, List.foldl_cons, List.foldl_nil, get?_observe, ih, List.find?_append]
      by_cases henforced : policy.Enforces migration
      · simp only [henforced, true_and, if_true]
        cases inventories.find? fun inventory => migration ∈ inventory.applied with
        | some first => simp
        | none => by_cases happlied : migration ∈ last.applied <;> simp [happlied]
      · simp [henforced]

end Observations

section Events

variable (policy : MigrationPolicy)

/-- The events of the stages, one after the other. -/
def eventsFrom : FirstApplied → List Inventory → List Event
  | _, [] => []
  | firstApplied, inventory :: rest =>
    stageEvents policy (observe policy firstApplied inventory) inventory ++
      eventsFrom (observe policy firstApplied inventory) rest

variable {policy} {firstApplied : FirstApplied} {inventories : List Inventory} {event : Event}

/-- The loop collects the events of the stages. -/
theorem foldl_checkStage (findings : Findings) :
    inventories.foldl (checkStage policy) findings =
      ⟨inventories.foldl (observe policy) findings.firstApplied,
        findings.violations ++
          (eventsFrom policy findings.firstApplied inventories).filterMap Sum.getLeft?,
        findings.exceptions ++
          (eventsFrom policy findings.firstApplied inventories).filterMap Sum.getRight?⟩ := by
  induction inventories generalizing findings with
  | nil => simp [eventsFrom]
  | cons inventory rest ih =>
      rw [List.foldl_cons, ih, List.foldl_cons, eventsFrom, List.filterMap_append,
        List.filterMap_append, ← List.append_assoc, ← List.append_assoc]
      rfl

/-- The violations are the events of that kind. -/
theorem compareInventoryHistory_eq :
    compareInventoryHistory policy inventories =
      (eventsFrom policy Dict.empty inventories).filterMap Sum.getLeft? := by
  rw [compareInventoryHistory, inventoryEvents, foldl_checkStage]
  rfl

/-- The exceptions are the events of that kind. -/
theorem mem_findPolicyExceptions {text : String} :
    text ∈ findPolicyExceptions policy inventories ↔
      Sum.inr text ∈ eventsFrom policy Dict.empty inventories := by
  rw [findPolicyExceptions, inventoryEvents, foldl_checkStage]
  simp [Sum.getRight?_eq_some_iff]

/-- The violations are the events of that kind. -/
theorem mem_compareInventoryHistory {item : InventoryViolation} :
    item ∈ compareInventoryHistory policy inventories ↔
      Sum.inl item ∈ eventsFrom policy Dict.empty inventories := by
  rw [compareInventoryHistory_eq]
  simp [Sum.getLeft?_eq_some_iff]

/-- The events of some stages and of the ones that follow. -/
theorem eventsFrom_append (rest : List Inventory) :
    eventsFrom policy firstApplied (inventories ++ rest) =
      eventsFrom policy firstApplied inventories ++
        eventsFrom policy (inventories.foldl (observe policy) firstApplied) rest := by
  induction inventories generalizing firstApplied with
  | nil => rfl
  | cons inventory inventories ih =>
      rw [List.cons_append, eventsFrom, eventsFrom, ih, List.append_assoc]
      rfl

/-- An event of a stage is that of a migration that was observed. -/
theorem mem_stageEvents {inventory : Inventory} :
    event ∈ stageEvents policy firstApplied inventory ↔ ∃ migration first,
      firstApplied.get? migration = some first ∧
      checkMigration policy inventory migration first = some event := by
  simp [stageEvents, Dict.get?_eq_some]

/-- An event comes from a stage and from what was observed up to it. -/
theorem mem_eventsFrom :
    event ∈ eventsFrom policy firstApplied inventories ↔ ∃ before inventory after,
      inventories = before ++ inventory :: after ∧ ∃ migration first,
        ((before ++ [inventory]).foldl (observe policy) firstApplied).get? migration =
            some first ∧
          checkMigration policy inventory migration first = some event := by
  induction inventories generalizing firstApplied with
  | nil => simp [eventsFrom]
  | cons inventory inventories ih =>
      rw [eventsFrom, List.mem_append, ih, mem_stageEvents]
      constructor
      · rintro (hfirst | ⟨before, inventory', after, rfl, hlater⟩)
        · exact ⟨[], inventory, inventories, rfl, hfirst⟩
        · exact ⟨inventory :: before, inventory', after, rfl, hlater⟩
      · rintro ⟨_ | ⟨_, before⟩, inventory', after, hsplit, hevent⟩
        · obtain ⟨rfl, rfl⟩ := List.cons.inj hsplit
          exact Or.inl hevent
        · obtain ⟨rfl, rfl⟩ := List.cons.inj hsplit
          exact Or.inr ⟨before, inventory', after, rfl, hevent⟩

end Events

section Texts

/-- A stage name has no colon. -/
theorem colon_notMem_of_isStageName {stage : String} (h : isStageName stage = true) :
    ':' ∉ stage.toList := by
  unfold isStageName at h
  split at h
  · cases h
  · next c cs hstage =>
      simp only [Bool.and_eq_true, List.all_eq_true] at h
      rw [hstage, List.mem_cons, not_or]
      constructor
      · rintro rfl
        exact absurd h.1 (by decide)
      · intro hmem
        exact absurd (h.2 ':' hmem) (by decide)

/-- What follows the stage in an exception. -/
theorem exception_toList_inj {stage stage' tail tail' : String}
    (hstage : isStageName stage = true) (hstage' : isStageName stage' = true)
    (h : stage ++ (":" ++ tail) = stage' ++ (":" ++ tail')) : tail = tail' := by
  have hchars := congrArg String.toList h
  simp only [String.toList_append] at hchars
  have htails := (Text.append_cons_inj_of_notMem (colon_notMem_of_isStageName hstage)
    (colon_notMem_of_isStageName hstage') hchars).2
  exact String.toList_injective htails

/-- The exception of a migration that is missing, from the colon on. -/
theorem missingException_eq (stage migration : String) :
    missingException stage migration =
      stage ++ (":" ++ (" allowed missing migration " ++ migration)) := by
  have hcolon : ": allowed missing migration " = ":" ++ " allowed missing migration " := by decide
  rw [missingException, hcolon, String.append_assoc, String.append_assoc]

/-- The exception of a migration that has changed, from the colon on. -/
theorem changeException_eq (stage migration : String) :
    changeException stage migration =
      stage ++ (":" ++ (" allowed fingerprint change for migration " ++ migration)) := by
  have hcolon : ": allowed fingerprint change for migration " =
      ":" ++ " allowed fingerprint change for migration " := by decide
  rw [changeException, hcolon, String.append_assoc, String.append_assoc]

/-- An exception of a change names its migration. -/
theorem changeException_inj {stage stage' migration migration' : String}
    (hstage : isStageName stage = true) (hstage' : isStageName stage' = true)
    (h : changeException stage migration = changeException stage' migration') :
    migration = migration' := by
  rw [changeException_eq, changeException_eq] at h
  have htails := congrArg String.toList (exception_toList_inj hstage hstage' h)
  rw [String.toList_append, String.toList_append, List.append_cancel_left_eq] at htails
  exact String.toList_injective htails

/-- The exception of a migration that is missing is not that of one that has changed. -/
theorem missingException_ne {stage stage' migration migration' : String}
    (hstage : isStageName stage = true) (hstage' : isStageName stage' = true) :
    missingException stage migration ≠ changeException stage' migration' := by
  intro h
  rw [missingException_eq, changeException_eq] at h
  have htails := congrArg String.toList (exception_toList_inj hstage hstage' h)
  -- The texts differ in the word that follows.
  simp at htails

end Texts

section Complete

variable {policy : MigrationPolicy} {inventories : List Inventory} {inventory : Inventory}
  {migration : String} {first : String × Option String}

/-- A violation names its stage and its migration, and one of a fingerprint differs from what was
observed first. -/
theorem checkMigration_eq_inl {item : InventoryViolation}
    (h : checkMigration policy inventory migration first = some (.inl item)) :
    item.stage = inventory.stage ∧ item.migration = migration ∧
      (item.kind = .fingerprint → first.2 ≠ none) := by
  unfold checkMigration at h
  split at h
  · split at h
    · cases h
    · cases h
      exact ⟨rfl, rfl, fun hkind => by cases hkind⟩
  · split at h
    · cases h
    · next fingerprint hfirst =>
        split_ifs at h
        · cases h
        · cases h
          exact ⟨rfl, rfl, fun _ => by simp [hfirst]⟩

/-- An exception names its stage and its migration. -/
theorem checkMigration_eq_inr {text : String}
    (h : checkMigration policy inventory migration first = some (.inr text)) :
    text = missingException inventory.stage migration ∨
      text = changeException inventory.stage migration ∧ first.2 ≠ none := by
  unfold checkMigration at h
  split at h
  · split at h
    · cases h
      exact Or.inl rfl
    · cases h
  · split at h
    · cases h
    · next fingerprint hfirst =>
        split_ifs at h
        · cases h
          exact Or.inr ⟨rfl, by simp [hfirst]⟩
        · cases h

/-- A migration that a stage does not have has an event there. -/
theorem exists_checkMigration_missing (policy : MigrationPolicy) (first : String × Option String)
    (h : inventory.available.get? migration = none) :
    checkMigration policy inventory migration first =
        some (.inr (missingException inventory.stage migration)) ∨
      ∃ item, checkMigration policy inventory migration first = some (.inl item) ∧
        item.stage = inventory.stage ∧ item.migration = migration := by
  unfold checkMigration
  rw [h]
  by_cases hallowed : migration ∈ policy.allowedMissing
  · exact Or.inl (if_pos hallowed)
  · exact Or.inr ⟨_, if_neg hallowed, rfl, rfl⟩

/-- A migration whose fingerprint is not the one observed first has an event of that kind. -/
theorem exists_checkMigration_changed (policy : MigrationPolicy) (stage : String)
    {fingerprint current : String} (h : inventory.available.get? migration = some current)
    (hne : current ≠ fingerprint) :
    checkMigration policy inventory migration (stage, some fingerprint) =
        some (.inr (changeException inventory.stage migration)) ∨
      ∃ item, checkMigration policy inventory migration (stage, some fingerprint) =
          some (.inl item) ∧ item.kind = .fingerprint ∧ item.migration = migration := by
  simp only [checkMigration, h, if_pos hne]
  by_cases hallowed : migration ∈ policy.allowedFingerprintChanges
  · exact Or.inl (if_pos hallowed)
  · exact Or.inr ⟨_, if_neg hallowed, rfl, rfl⟩

/-- The first stage that applied a migration is found when there is one. -/
theorem exists_first {before : List Inventory}
    (h : ∃ earlier ∈ before, migration ∈ earlier.applied) :
    ∃ first, (before.find? fun inventory => migration ∈ inventory.applied) = some first := by
  rw [← Option.isSome_iff_exists, List.find?_isSome]
  simpa using h

/-- The check reports what a stage since the first one does not have. -/
theorem hasEvent_of_since (henforced : policy.Enforces migration)
    (hsince : Since inventories migration inventory)
    (hmissing : inventory.available.get? migration = none) :
    HasEvent policy inventories inventory.stage migration := by
  obtain ⟨before, after, hsplit, hearlier⟩ := hsince
  obtain ⟨first, hfirst⟩ := exists_first hearlier
  have hobserved : ((before ++ [inventory]).foldl (observe policy) Dict.empty).get? migration =
      some (first.stage, first.available.get? migration) := by
    rw [get?_foldl_observe, if_pos henforced, hfirst]
    rfl
  have hmem : ∀ event, checkMigration policy inventory migration
      (first.stage, first.available.get? migration) = some event →
        event ∈ eventsFrom policy Dict.empty inventories :=
    fun event hevent => mem_eventsFrom.mpr
      ⟨before, inventory, after, hsplit, migration, _, hobserved, hevent⟩
  rcases exists_checkMigration_missing policy (first.stage, first.available.get? migration)
    hmissing with hevent | ⟨item, hevent, hitem⟩
  · exact Or.inr (Or.inl (mem_findPolicyExceptions.mpr (hmem _ hevent)))
  · exact Or.inl ⟨item, mem_compareInventoryHistory.mpr (hmem _ hevent), hitem⟩

/-- The check reports a fingerprint that is not the one of the first stage. -/
theorem hasFingerprintEvent_of_ne (henforced : policy.Enforces migration)
    {before after : List Inventory} {first : Inventory} {fingerprint current : String}
    (hsplit : inventories = before ++ inventory :: after)
    (hfirst : ((before ++ [inventory]).find? fun inventory => migration ∈ inventory.applied) =
      some first)
    (hfingerprint : first.available.get? migration = some fingerprint)
    (hcurrent : inventory.available.get? migration = some current) (hne : current ≠ fingerprint) :
    HasFingerprintEvent policy inventories migration := by
  have hobserved : ((before ++ [inventory]).foldl (observe policy) Dict.empty).get? migration =
      some (first.stage, some fingerprint) := by
    rw [get?_foldl_observe, if_pos henforced, hfirst, ← hfingerprint]
    rfl
  have hmem : ∀ event, checkMigration policy inventory migration (first.stage, some fingerprint) =
      some event → event ∈ eventsFrom policy Dict.empty inventories :=
    fun event hevent => mem_eventsFrom.mpr
      ⟨before, inventory, after, hsplit, migration, _, hobserved, hevent⟩
  rcases exists_checkMigration_changed policy first.stage hcurrent hne with
    hevent | ⟨item, hevent, hitem⟩
  · exact Or.inr ⟨inventory, by simp [hsplit], mem_findPolicyExceptions.mpr (hmem _ hevent)⟩
  · exact Or.inl ⟨item, mem_compareInventoryHistory.mpr (hmem _ hevent), hitem⟩

/-- A violation names a stage of the sequence. -/
theorem stage_mem_of_mem_eventsFrom {firstApplied : FirstApplied} {item : InventoryViolation}
    (h : Sum.inl item ∈ eventsFrom policy firstApplied inventories) :
    item.stage ∈ inventories.map Inventory.stage := by
  obtain ⟨before, inventory, after, rfl, migration, first, -, hevent⟩ := mem_eventsFrom.mp h
  rw [(checkMigration_eq_inl hevent).1]
  simp

/-- The violations of a stage do not depend on the stages that follow. -/
theorem currentViolations_prefix {before after : List Inventory}
    (hstages : ((before ++ inventory :: after).map Inventory.stage).Nodup) :
    currentViolations policy (before ++ [inventory]) inventory.stage =
      currentViolations policy (before ++ inventory :: after) inventory.stage := by
  have hafter : inventory.stage ∉ after.map Inventory.stage := by
    rw [List.map_append, List.map_cons, List.nodup_append] at hstages
    exact (List.nodup_cons.mp hstages.2.1).1
  have hsplit : before ++ inventory :: after = (before ++ [inventory]) ++ after := by simp
  -- The violations of the later stages name other stages.
  have hlater : ((eventsFrom policy ((before ++ [inventory]).foldl (observe policy) Dict.empty)
      after).filterMap Sum.getLeft?).filter (fun item => item.stage = inventory.stage) = [] := by
    rw [List.filter_eq_nil_iff]
    intro item hitem hstage
    obtain ⟨event, hevent, hleft⟩ := List.mem_filterMap.mp hitem
    rw [Sum.getLeft?_eq_some_iff] at hleft
    subst hleft
    have hmem := stage_mem_of_mem_eventsFrom hevent
    rw [of_decide_eq_true hstage] at hmem
    exact hafter hmem
  rw [currentViolations, currentViolations, compareInventoryHistory_eq,
    compareInventoryHistory_eq, hsplit, eventsFrom_append after, List.filterMap_append,
    List.filter_append, hlater, List.append_nil]

/-- The first stage that applied a migration is the one that is found. -/
theorem find?_eq_first {before after : List Inventory} {first : Inventory}
    (hsplit : inventories = before ++ first :: after)
    (hbefore : ∀ earlier ∈ before, migration ∉ earlier.applied)
    (happlied : migration ∈ first.applied) :
    (inventories.find? fun inventory => migration ∈ inventory.applied) = some first := by
  rw [hsplit, List.find?_append, List.find?_eq_none.mpr (by simpa using hbefore),
    Option.none_or, List.find?_cons_of_pos (by simpa using happlied)]

/-- A migration without a first fingerprint has no event of a changed one. -/
theorem not_hasFingerprintEvent {before after : List Inventory} {first : Inventory}
    (hsplit : inventories = before ++ first :: after)
    (hbefore : ∀ earlier ∈ before, migration ∉ earlier.applied)
    (happlied : migration ∈ first.applied) (hmissing : first.available.get? migration = none) :
    ¬ HasFingerprintEvent policy inventories migration := by
  -- Whatever is observed about the migration has no fingerprint.
  have hobserved : ∀ (before' : List Inventory) (inventory : Inventory) (after' : List Inventory)
      (o : String × Option String), inventories = before' ++ inventory :: after' →
      ((before' ++ [inventory]).foldl (observe policy) Dict.empty).get? migration = some o →
      o.2 = none := by
    intro before' inventory after' o hsplit' ho
    rw [get?_foldl_observe] at ho
    split_ifs at ho with henforced
    obtain ⟨found, hfound, rfl⟩ := Option.map_eq_some_iff.mp ho
    have hsame : (inventories.find? fun inventory => migration ∈ inventory.applied) =
        some found := by
      have hsplit'' : inventories = (before' ++ [inventory]) ++ after' := by simp [hsplit']
      rw [hsplit'', List.find?_append, hfound, Option.some_or]
    rw [find?_eq_first hsplit hbefore happlied, Option.some_inj] at hsame
    rw [← hsame, hmissing]
  rintro (⟨item, hitem, hkind, hmigration⟩ | ⟨stage, hstage, htext⟩)
  · obtain ⟨before', inventory, after', hsplit', m, o, ho, hevent⟩ :=
      mem_eventsFrom.mp (mem_compareInventoryHistory.mp hitem)
    obtain ⟨-, hm, hfirst⟩ := checkMigration_eq_inl hevent
    rw [← hm, hmigration] at ho
    exact hfirst hkind (hobserved _ _ _ _ hsplit' ho)
  · obtain ⟨before', inventory, after', hsplit', m, o, ho, hevent⟩ :=
      mem_eventsFrom.mp (mem_findPolicyExceptions.mp htext)
    rcases checkMigration_eq_inr hevent with hmissingText | ⟨hchange, hfirst⟩
    · exact missingException_ne inventory.isStageName_stage stage.isStageName_stage
        hmissingText.symm
    · have hm := changeException_inj stage.isStageName_stage inventory.isStageName_stage hchange
      rw [← hm] at ho
      exact hfirst (hobserved _ _ _ _ hsplit' ho)

/-- The first stage that applied a migration, seen from a stage since then. -/
theorem exists_first_of_since (hsince : Since inventories migration inventory) :
    ∃ before first after, inventories = before ++ first :: after ∧
      (∀ earlier ∈ before, migration ∉ earlier.applied) ∧ migration ∈ first.applied ∧
      (inventory = first ∨ inventory ∈ after) ∧
      ∃ before' after', inventories = before' ++ inventory :: after' ∧
        ((before' ++ [inventory]).find? fun inventory => migration ∈ inventory.applied) =
          some first := by
  obtain ⟨before', after', hsplit, hearlier⟩ := hsince
  obtain ⟨first, hfirst⟩ := exists_first hearlier
  obtain ⟨happlied, before, middle, hmiddle, hbefore⟩ := List.find?_eq_some_iff_append.mp hfirst
  have hall : inventories = before ++ first :: (middle ++ after') := by
    rw [hsplit, ← List.cons_append, ← List.append_assoc, ← hmiddle]
    simp
  have hlast : inventory = first ∨ inventory ∈ middle := by
    rcases List.eq_nil_or_concat middle with rfl | ⟨rest, last, rfl⟩
    · exact Or.inl (List.append_inj' hmiddle rfl |>.2 |> List.head_eq_of_cons_eq)
    · -- The stage itself is the last one of those that were searched.
      have heq : before' ++ [inventory] = (before ++ first :: rest) ++ [last] := by
        simpa using hmiddle
      have hsame : inventory = last := List.head_eq_of_cons_eq (List.append_inj' heq rfl).2
      exact Or.inr (by simp [hsame])
  refine ⟨before, first, middle ++ after', hall, fun earlier hearlier => ?_,
    by simpa using happlied, ?_, before', after', hsplit, hfirst⟩
  · simpa using hbefore earlier hearlier
  · exact hlast.imp_right fun hmem => List.mem_append_left _ hmem

/-- The check reports every change since the first stage, unless that stage does not have the
migration. -/
theorem hasFingerprintEvent_of_since (henforced : policy.Enforces migration)
    (hover : ¬ Overlooked inventories migration) {inventory' : Inventory}
    (hsince : Since inventories migration inventory)
    (hsince' : Since inventories migration inventory') {fingerprint fingerprint' : String}
    (h : inventory.available.get? migration = some fingerprint)
    (h' : inventory'.available.get? migration = some fingerprint')
    (hne : fingerprint ≠ fingerprint') : HasFingerprintEvent policy inventories migration := by
  obtain ⟨before, first, after, hall, hbefore, happlied, hplace, b, a, hsplit, hfirst⟩ :=
    exists_first_of_since hsince
  obtain ⟨before', first', after', hall', hbefore', happlied', hplace', b', a', hsplit', hfirst'⟩ :=
    exists_first_of_since hsince'
  -- There is one first stage, and it comes once.
  have hsame : first = first' :=
    Option.some_inj.mp ((find?_eq_first hall hbefore happlied).symm.trans
      (find?_eq_first hall' hbefore' happlied'))
  subst hsame
  obtain ⟨-, rfl⟩ := Text.append_cons_inj_of_notMem (fun hmem => hbefore _ hmem happlied)
    (fun hmem => hbefore' _ hmem happlied) (hall.symm.trans hall')
  cases hfingerprint : first.available.get? migration with
  | none =>
      refine absurd ⟨before, first, after, hall, hbefore, happlied, hfingerprint, inventory, ?_,
        inventory', ?_, fingerprint, fingerprint', h, h', hne⟩ hover
      · refine hplace.resolve_left ?_
        rintro rfl
        rw [hfingerprint] at h
        cases h
      · refine hplace'.resolve_left ?_
        rintro rfl
        rw [hfingerprint] at h'
        cases h'
  | some original =>
      by_cases hchanged : fingerprint = original
      · subst hchanged
        exact hasFingerprintEvent_of_ne henforced hsplit' hfirst' hfingerprint h' hne.symm
      · exact hasFingerprintEvent_of_ne henforced hsplit hfirst hfingerprint h hchanged

/-- The check of a sequence of stages is complete and incremental exactly if no migration of an
enforced app is overlooked. -/
theorem isComplete_iff (policy : MigrationPolicy) {inventories : List Inventory}
    (hstages : (inventories.map Inventory.stage).Nodup) :
    IsComplete policy inventories ↔
      ∀ migration, policy.Enforces migration → ¬ Overlooked inventories migration := by
  constructor
  · rintro hcomplete migration henforced ⟨before, first, after, hsplit, hbefore, happlied, hmissing,
      inventory, hinventory, inventory', hinventory', fingerprint, fingerprint', h, h', hne⟩
    have hsince : ∀ later ∈ after, Since inventories migration later := by
      intro later hlater
      obtain ⟨middle, rest, rfl⟩ := List.append_of_mem hlater
      exact ⟨before ++ first :: middle, rest, by simp [hsplit], first, by simp, happlied⟩
    exact not_hasFingerprintEvent hsplit hbefore happlied hmissing
      (hcomplete.changed migration henforced inventory inventory' (hsince _ hinventory)
        (hsince _ hinventory') fingerprint fingerprint' h h' hne)
  · intro hover
    exact {
      missing := fun migration henforced inventory hsince hmissing =>
        hasEvent_of_since henforced hsince hmissing
      changed := fun migration henforced inventory inventory' hsince hsince' fingerprint
          fingerprint' h h' hne =>
        hasFingerprintEvent_of_since henforced (hover migration henforced) hsince hsince' h h' hne
      incremental := by
        rintro before inventory after rfl
        exact currentViolations_prefix hstages }

end Complete

/-- A policy for the app, with one migration that may be missing. -/
def samplePolicy : MigrationPolicy where
  enforcedApps := ["aap_gateway_api"]
  allowedMissing := ["aap_gateway_api.0001_initial"]
  allowedFingerprintChanges := []

/-- A fingerprint. -/
def sampleFingerprint (c : Char) : String := String.ofList (List.replicate 64 c)

/-- A stage with the migration applied, and available if it has a fingerprint. -/
def sampleStage (stage : String) (hstage : isStageName stage = true)
    (fingerprint : Option String) : Inventory where
  stage := stage
  available := fingerprint.elim Dict.empty (Dict.empty.set "aap_gateway_api.0001_initial")
  applied := ["aap_gateway_api.0001_initial"]
  isStageName_stage := hstage

/-- Two stages that both have the migration. -/
theorem isComplete_sampleStages :
    IsComplete samplePolicy
      [sampleStage "v2.5" (by decide) (some (sampleFingerprint 'a')),
        sampleStage "v2.6" (by decide) (some (sampleFingerprint 'b'))] := by
  refine (isComplete_iff samplePolicy (by decide)).mpr ?_
  rintro migration - ⟨before, first, after, hsplit, -, -, -, inventory, hinventory, inventory',
    hinventory', fingerprint, fingerprint', h, h', hne⟩
  -- There is one stage after the first one, so there are no two to compare.
  have hlength : after.length ≤ 1 := by
    have htotal := congrArg List.length hsplit
    simp only [List.length_cons, List.length_nil, List.length_append] at htotal
    omega
  match after, hlength with
  | [], _ => exact List.not_mem_nil hinventory
  | [last], _ =>
      rw [List.mem_singleton.mp hinventory] at h
      rw [List.mem_singleton.mp hinventory', h] at h'
      exact hne (Option.some.inj h')

/-- A migration that is missing at first and changes later is not reported. -/
theorem not_isComplete_sampleStages : ¬ ∀ (policy : MigrationPolicy) (inventories : List Inventory),
    (inventories.map Inventory.stage).Nodup → IsComplete policy inventories := by
  intro hall
  have hcomplete := hall samplePolicy [sampleStage "v2.5" (by decide) none,
    sampleStage "v2.6" (by decide) (some (sampleFingerprint 'a')),
    sampleStage "v2.7" (by decide) (some (sampleFingerprint 'b'))] (by decide)
  refine @not_hasFingerprintEvent _ _ _ [] _ _ rfl (by simp) List.mem_cons_self rfl
    (hcomplete.changed "aap_gateway_api.0001_initial" (by decide) _ _ ⟨[_], [_], rfl, _,
      List.mem_cons_self, List.mem_cons_self⟩ ⟨[_, _], [], rfl, _, List.mem_cons_self,
      List.mem_cons_self⟩ (sampleFingerprint 'a') (sampleFingerprint 'b') rfl rfl ?_)
  decide

end AapGateway.Tools
