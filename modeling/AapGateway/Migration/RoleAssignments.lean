import Mathlib
import AapGateway.Foundations.Keyset

/-!
# Migration of role assignments

`migrate_role_assignments` copies the role assignments of a service into the gateway. The
assignments of users come first, then those of teams. Each kind is read by keyset pagination from
a cursor that is kept in the gateway's database and advanced after each page. An assignment whose
role, actor or object the gateway does not know is skipped. The object roles of a page are created
before its object assignments, and the database refuses one without a content type: such a page
fails behind its global assignments. The RBAC caches are rebuilt at the end, also when the migration
fails.

The content of the service does not change during the runs, and a run may fail at any point.

## Main definitions

* `resolveSingleAssignment`: what the gateway makes of one upstream assignment;
* `bulkResolveAndCreatePage`: the writes of one page;
* `paginateAndCreate`: the pages of one assignment type, up to a failure;
* `Faults.failure`: the first failure, of the service, the gateway or its database;
* `migrateRoleAssignments`: a run.

## Main results

* `mem_paginateAndCreate`: what a run of one assignment type leaves in the database;
* `paginateAndCreate_created_eq_zero_iff`: when a run of one assignment type counts nothing.
-/

namespace AapGateway.Migration

/-- The two kinds of role assignment, in the order in which they are migrated. -/
inductive AssignmentType where
  | user
  | team
  deriving DecidableEq, Repr

/-- `DEFAULT_EXCLUSION_SET`. -/
def defaultExclusionSet : List String :=
  ["Platform Auditor", "Organization Admin", "Organization Member", "Team Admin", "Team Member"]

/-- `_get_role_definitions_to_exclude`: the managed roles whose assignments are not migrated. -/
def getRoleDefinitionsToExclude (serviceType : String) : List String :=
  List.insertionSort (· ≤ ·) <|
    if serviceType = "controller" then []
    else if serviceType = "hub" then defaultExclusionSet.filter (· ≠ "Team Member")
    else defaultExclusionSet

/-- A role assignment as a service lists it. -/
structure Item where
  id : ℕ
  /-- The name of the role definition. -/
  roleDefinition : String
  /-- `user_ansible_id` or `team_ansible_id`. -/
  actorAnsibleId : Option String
  objectAnsibleId : Option String
  objectId : Option String
  deriving DecidableEq, Repr

/-- A service that role assignments are migrated from. -/
structure Service where
  serviceType : String
  /-- The page size the service answers with. -/
  pageSize : ℕ
  assignments : AssignmentType → List Item
  pageSize_pos : 0 < pageSize
  nodup_ids : ∀ t, ((assignments t).map Item.id).Nodup
  id_pos : ∀ t, ∀ item ∈ assignments t, 0 < item.id

/-- A role definition of the gateway. -/
structure RoleDefinition where
  id : ℕ
  contentTypeId : Option ℕ
  deriving DecidableEq, Repr

/-- What the gateway can resolve: role definitions by name, and the objects behind the ansible
ids of actors and of objects. -/
structure Resolver where
  role : String → Option RoleDefinition
  actor : String → Option ℕ
  object : String → Option String

/-- The key of an `ObjectRole`. -/
structure ObjectRole where
  roleDefinition : ℕ
  contentType : Option ℕ
  objectId : String
  deriving DecidableEq, Repr

/-- A `RoleUserAssignment` or a `RoleTeamAssignment`. It is global without an object role. -/
structure Assignment where
  actor : ℕ
  roleDefinition : ℕ
  objectRole : Option ObjectRole
  deriving DecidableEq, Repr

/-- A JSON value that Python takes for true. -/
def truthy (s : Option String) : Option String :=
  s.filter fun text => text ≠ ""

/-- `_resolve_single_assignment`: the assignment to create, or `none` when the item is skipped. -/
def resolveSingleAssignment (r : Resolver) (item : Item) : Option Assignment := do
  let actorId ← truthy item.actorAnsibleId
  let roleName ← truthy (some item.roleDefinition)
  let rd ← r.role roleName
  let actor ← r.actor actorId
  match truthy item.objectAnsibleId with
  | some objectAnsibleId => do
    -- An object that the gateway does not know: the item is skipped.
    let objectId ← r.object objectAnsibleId
    return ⟨actor, rd.id, some ⟨rd.id, rd.contentTypeId, objectId⟩⟩
  | none =>
    -- `object_id is not None`: here an empty text is an object.
    match item.objectId with
    | some objectId => return ⟨actor, rd.id, some ⟨rd.id, rd.contentTypeId, objectId⟩⟩
    | none => return ⟨actor, rd.id, none⟩

/-- The database of the gateway: the assignments of each type and the table of the cursors. -/
structure Db where
  assignments : AssignmentType → List Assignment
  cursor : String → AssignmentType → ℕ

/-- Add assignments of one type. -/
def Db.insert (db : Db) (t : AssignmentType) (rows : List Assignment) : Db :=
  { db with assignments := Function.update db.assignments t (db.assignments t ++ rows) }

/-- The upsert of `CursorStore.advance`. -/
def Db.advance (db : Db) (slug : String) (t : AssignmentType) (pk : ℕ) : Db :=
  { db with cursor := Function.update db.cursor slug (Function.update (db.cursor slug) t pk) }

/-- `_bulk_create_global_assignments`. The rows that exist before the call are left out; a row
that is twice in the call is created twice, since the unique constraint does not bind it. -/
def bulkCreateGlobalAssignments (t : AssignmentType) (rows : List Assignment) (db : Db) : Db × ℕ :=
  let new := rows.filter fun row => row ∉ db.assignments t
  (db.insert t new, new.length)

/-- An object role without a content type is among those of the assignments. -/
def refused (rows : List Assignment) : Bool :=
  rows.any fun row => row.objectRole.any fun o => o.contentType.isNone

/-- `_bulk_create_object_assignments`. The conflicting rows are dropped by the database and
counted all the same. -/
def bulkCreateObjectAssignments (t : AssignmentType) (rows : List Assignment) (db : Db) :
    Option (Db × ℕ × List ObjectRole) :=
  -- `ignore_conflicts` does not cover the column that may not be null: no object role is created.
  if refused rows then none
  else
    let new := (rows.filter fun row => row ∉ db.assignments t).dedup
    some (db.insert t new, rows.length, (rows.filterMap Assignment.objectRole).dedup)

/-- The global assignments that the items of a page resolve to. -/
def globalAssignments (r : Resolver) (page : List Item) : List Assignment :=
  (page.filterMap (resolveSingleAssignment r)).filter fun row => row.objectRole = none

/-- The object assignments that the items of a page resolve to. -/
def objectAssignments (r : Resolver) (page : List Item) : List Assignment :=
  (page.filterMap (resolveSingleAssignment r)).filter fun row => row.objectRole ≠ none

/-- What the pagination of one assignment type hands back. -/
structure Progress where
  created : ℕ
  objectRoles : List ObjectRole
  deriving DecidableEq, Repr

/-- `_bulk_resolve_and_create_page`. It hands nothing back when it raises. -/
def bulkResolveAndCreatePage (r : Resolver) (t : AssignmentType) (page : List Item) (db : Db) :
    Db × Option Progress :=
  let (db₁, globals) := bulkCreateGlobalAssignments t (globalAssignments r page) db
  match bulkCreateObjectAssignments t (objectAssignments r page) db₁ with
  -- The global assignments are committed by then.
  | none => (db₁, none)
  | some (db₂, objects, objectRoles) => (db₂, some ⟨globals + objects, objectRoles⟩)

/-- The last thing that a page does before the run fails. -/
inductive Stage where
  /-- Nothing: the request fails, or the processing before the first write. -/
  | requested
  /-- The global assignments are created. -/
  | globals
  /-- The object assignments are created too. -/
  | objects
  /-- The cursor is advanced too. -/
  | advanced
  deriving DecidableEq, Repr

/-- The failures in the pagination of one assignment type. -/
structure Faults where
  /-- The cursor cannot be loaded. -/
  load : Bool
  /-- The pages after which the cursor cannot be advanced. -/
  advance : ℕ → Bool
  /-- The page and the stage at which the run fails. -/
  crash : Option (ℕ × Stage)

/-- The failures as seen from the next page on. -/
def Faults.next (f : Faults) : Faults where
  load := f.load
  advance k := f.advance (k + 1)
  crash := f.crash.map fun (k, stage) => (k - 1, stage)

/-- `CursorStore._load`. -/
def Faults.start (f : Faults) (db : Db) (slug : String) (t : AssignmentType) : ℕ :=
  if f.load then 0 else db.cursor slug t

/-- `CursorStore.advance` after a page: it swallows its failure. -/
def advanceCursor (f : Faults) (slug : String) (t : AssignmentType) (page : List Item) (db : Db) :
    Db :=
  match page.getLast? with
  | none => db
  | some last => if f.advance 0 then db else db.advance slug t last.id

/-- What a page leaves behind when the run fails at a stage of it. -/
def failPage (r : Resolver) (f : Faults) (slug : String) (t : AssignmentType) (page : List Item)
    (db : Db) : Stage → Db
  | .requested => db
  | .globals => (bulkCreateGlobalAssignments t (globalAssignments r page) db).1
  | .objects => (bulkResolveAndCreatePage r t page db).1
  | .advanced =>
    match bulkResolveAndCreatePage r t page db with
    | (db', none) => db'
    | (db', some _) => advanceCursor f slug t page db'

/-- `_paginate_and_create` on the pages it reads. What it has counted is lost when it raises. -/
def paginateAndCreate (r : Resolver) (slug : String) (t : AssignmentType) :
    List (List Item) → Faults → Db → Db × Option Progress
  | [], f, db =>
    match f.crash with
    -- The request that would have found no further page may fail too.
    | some (0, .requested) => (db, none)
    | _ => (db, some ⟨0, []⟩)
  | page :: pages, f, db =>
    match f.crash with
    | some (0, stage) => (failPage r f slug t page db stage, none)
    | _ =>
      match bulkResolveAndCreatePage r t page db with
      | (db₁, none) => (db₁, none)
      | (db₁, some first) =>
        let (db₂, rest) := paginateAndCreate r slug t pages f.next (advanceCursor f slug t page db₁)
        (db₂, rest.map fun p => ⟨first.created + p.created, first.objectRoles ++ p.objectRoles⟩)

/-- The items that the service lists under the filters of the migration. -/
def Service.included (s : Service) (t : AssignmentType) : List Item :=
  (s.assignments t).filter fun item =>
    item.roleDefinition ∉ getRoleDefinitionsToExclude s.serviceType

/-- The pages that the service returns from a cursor on. -/
def Service.pages (s : Service) (t : AssignmentType) (lastPk : ℕ) : List (List Item) :=
  Keyset.pages Item.id s.pageSize (s.included t) (s.included t).length (some lastPk)

/-- The calls that rebuild the RBAC caches. -/
inductive Rebuild where
  | computeTeamMemberRoles
  | computeObjectRolePermissions (objectRoles : List ObjectRole)
  deriving DecidableEq, Repr

/-- One run of the migration: the service, what the gateway can resolve at the time, and the
failures in each assignment type. -/
structure Run where
  slug : String
  resolver : Resolver
  faults : AssignmentType → Faults

/-- What a run does. -/
structure Outcome where
  db : Db
  rebuilds : List Rebuild
  raised : Bool

/-- The pages that a run reads of one assignment type. -/
def Run.pages (run : Run) (s : Service) (t : AssignmentType) (db : Db) : List (List Item) :=
  s.pages t ((run.faults t).start db run.slug t)

/-- The part of a run for one assignment type. -/
def migrateType (s : Service) (run : Run) (t : AssignmentType) (db : Db) : Db × Option Progress :=
  paginateAndCreate run.resolver run.slug t (run.pages s t db) (run.faults t) db

/-- The loop over the assignment types, with what the earlier ones handed back. -/
def migrateTypes (s : Service) (run : Run) :
    List AssignmentType → Db → Progress → Db × Progress × Bool
  | [], db, total => (db, total, false)
  | t :: ts, db, total =>
    match migrateType s run t db with
    -- The exception passes the assignment, so that `total` is that of the earlier types.
    | (db', none) => (db', total, true)
    | (db', some p) =>
      migrateTypes s run ts db' ⟨total.created + p.created, total.objectRoles ++ p.objectRoles⟩

/-- The `finally` block of `migrate_role_assignments`. -/
def rebuilds (total : Progress) : List Rebuild :=
  if total.created = 0 then []
  else if total.objectRoles = [] then [.computeTeamMemberRoles]
  else [.computeTeamMemberRoles, .computeObjectRolePermissions total.objectRoles]

/-- `migrate_role_assignments`. -/
def migrateRoleAssignments (s : Service) (run : Run) (db : Db) : Outcome :=
  let (db', total, raised) := migrateTypes s run [.user, .team] db ⟨0, []⟩
  ⟨db', rebuilds total, raised⟩

section Page

variable {r : Resolver} {t t' : AssignmentType} {page : List Item} {db : Db} {row : Assignment}

/-- The assignments after an insertion. -/
@[simp]
theorem Db.mem_insert {rows : List Assignment} :
    row ∈ (db.insert t rows).assignments t' ↔
      row ∈ db.assignments t' ∨ t' = t ∧ row ∈ rows := by
  by_cases ht : t' = t
  · subst ht
    simp [Db.insert]
  · simp [Db.insert, ht]

/-- The global assignments after `_bulk_create_global_assignments` are there. -/
theorem mem_bulkCreateGlobalAssignments {rows : List Assignment} :
    row ∈ (bulkCreateGlobalAssignments t rows db).1.assignments t' ↔
      row ∈ db.assignments t' ∨ t' = t ∧ row ∈ rows := by
  by_cases ht : t' = t
  · subst ht
    simp [bulkCreateGlobalAssignments]
    tauto
  · simp [bulkCreateGlobalAssignments, ht]

/-- Every assignment that an item of a page resolves to is global or for an object. -/
theorem mem_resolved_iff :
    row ∈ page.filterMap (resolveSingleAssignment r) ↔
      row ∈ globalAssignments r page ∨ row ∈ objectAssignments r page := by
  simp only [globalAssignments, objectAssignments, List.mem_filter, decide_eq_true_eq]
  tauto

/-- A page whose object roles the database refuses ends behind its global assignments. -/
theorem bulkResolveAndCreatePage_of_refused (h : refused (objectAssignments r page) = true) :
    bulkResolveAndCreatePage r t page db =
      ((bulkCreateGlobalAssignments t (globalAssignments r page) db).1, none) := by
  simp [bulkResolveAndCreatePage, bulkCreateObjectAssignments, h]

/-- The writes of a page whose object roles the database takes. -/
theorem bulkResolveAndCreatePage_of_not_refused (h : refused (objectAssignments r page) = false) :
    bulkResolveAndCreatePage r t page db =
      let globals := bulkCreateGlobalAssignments t (globalAssignments r page) db
      let objects := objectAssignments r page
      (globals.1.insert t (objects.filter fun row => row ∉ globals.1.assignments t).dedup,
        some ⟨globals.2 + objects.length, (objects.filterMap Assignment.objectRole).dedup⟩) := by
  simp [bulkResolveAndCreatePage, bulkCreateObjectAssignments, h]

/-- A page raises exactly when the database refuses its object roles. -/
theorem bulkResolveAndCreatePage_eq_none_iff :
    (bulkResolveAndCreatePage r t page db).2 = none ↔
      refused (objectAssignments r page) = true := by
  by_cases h : refused (objectAssignments r page) = true
  · simp [bulkResolveAndCreatePage_of_refused h, h]
  · rw [Bool.not_eq_true] at h
    simp [bulkResolveAndCreatePage_of_not_refused h, h]

/-- The assignments that a page creates unless they are there. -/
def createdOnPage (r : Resolver) (page : List Item) : List Assignment :=
  if refused (objectAssignments r page) then globalAssignments r page
  else page.filterMap (resolveSingleAssignment r)

/-- A page creates what its items resolve to, if the database takes its object roles. -/
theorem mem_bulkResolveAndCreatePage :
    row ∈ (bulkResolveAndCreatePage r t page db).1.assignments t' ↔
      row ∈ db.assignments t' ∨ t' = t ∧ row ∈ createdOnPage r page := by
  by_cases h : refused (objectAssignments r page) = true
  · rw [bulkResolveAndCreatePage_of_refused h, createdOnPage, if_pos h,
      mem_bulkCreateGlobalAssignments]
  · rw [createdOnPage, if_neg h, mem_resolved_iff]
    rw [Bool.not_eq_true] at h
    rw [bulkResolveAndCreatePage_of_not_refused h]
    simp only [Db.mem_insert, List.mem_dedup, List.mem_filter, decide_eq_true_eq,
      mem_bulkCreateGlobalAssignments]
    by_cases ht : t' = t
    · subst ht
      tauto
    · simp [ht]

/-- A page itself leaves the cursors alone. -/
@[simp]
theorem bulkResolveAndCreatePage_cursor :
    (bulkResolveAndCreatePage r t page db).1.cursor = db.cursor := by
  by_cases h : refused (objectAssignments r page) = true
  · rw [bulkResolveAndCreatePage_of_refused h]
    rfl
  · rw [bulkResolveAndCreatePage_of_not_refused (Bool.eq_false_of_not_eq_true h)]
    rfl

/-- A page that hands something back has created all that it resolves. -/
theorem createdOnPage_of_some {p : Progress}
    (h : (bulkResolveAndCreatePage r t page db).2 = some p) :
    createdOnPage r page = page.filterMap (resolveSingleAssignment r) := by
  refine if_neg fun hrefused => ?_
  rw [bulkResolveAndCreatePage_eq_none_iff.mpr hrefused] at h
  cases h

/-- What a page hands back. -/
theorem bulkResolveAndCreatePage_some {p : Progress}
    (h : (bulkResolveAndCreatePage r t page db).2 = some p) :
    p = ⟨(bulkCreateGlobalAssignments t (globalAssignments r page) db).2 +
        (objectAssignments r page).length,
      ((objectAssignments r page).filterMap Assignment.objectRole).dedup⟩ := by
  cases hrefused : refused (objectAssignments r page) with
  | true =>
      rw [bulkResolveAndCreatePage_of_refused hrefused] at h
      cases h
  | false =>
      rw [bulkResolveAndCreatePage_of_not_refused hrefused] at h
      exact (Option.some.inj h).symm

/-- The object roles that a page hands back. -/
theorem mem_bulkResolveAndCreatePage_objectRoles {o : ObjectRole} {p : Progress}
    (h : (bulkResolveAndCreatePage r t page db).2 = some p) :
    o ∈ p.objectRoles ↔
      ∃ row ∈ page.filterMap (resolveSingleAssignment r), row.objectRole = some o := by
  rw [bulkResolveAndCreatePage_some h]
  simp only [objectAssignments, List.mem_dedup, List.mem_filterMap, List.mem_filter,
    decide_eq_true_eq]
  constructor
  · rintro ⟨row, ⟨hrow, -⟩, ho⟩
    exact ⟨row, hrow, ho⟩
  · rintro ⟨row, hrow, ho⟩
    exact ⟨row, ⟨hrow, by simp [ho]⟩, ho⟩

/-- A page counts nothing exactly when its items resolve to global assignments that exist. -/
theorem bulkResolveAndCreatePage_created_eq_zero_iff {p : Progress}
    (h : (bulkResolveAndCreatePage r t page db).2 = some p) :
    p.created = 0 ↔
      ∀ row ∈ page.filterMap (resolveSingleAssignment r),
        row.objectRole = none ∧ row ∈ db.assignments t := by
  rw [bulkResolveAndCreatePage_some h]
  simp only [bulkCreateGlobalAssignments, Nat.add_eq_zero_iff, List.length_eq_zero_iff,
    List.filter_eq_nil_iff, globalAssignments, objectAssignments, List.mem_filter,
    decide_eq_true_eq, not_not]
  constructor
  · rintro ⟨hglobal, hobject⟩ row hrow
    exact ⟨hobject row hrow, hglobal row ⟨hrow, hobject row hrow⟩⟩
  · intro h
    exact ⟨fun row hrow => (h row hrow.1).2, fun row hrow => (h row hrow).1⟩

/-- Advancing the cursor leaves the assignments alone. -/
@[simp]
theorem advanceCursor_assignments {f : Faults} {slug : String} :
    (advanceCursor f slug t page db).assignments = db.assignments := by
  unfold advanceCursor
  split
  · rfl
  · split <;> rfl

end Page

section Pagination

variable {r : Resolver} {slug : String} {t t' : AssignmentType} {page : List Item}
  {pages : List (List Item)} {f : Faults} {db : Db} {row : Assignment}

/-- The stage at which the next page fails, if it does: the given one, or that after its global
assignments when the database refuses its object roles. -/
def Faults.stage (f : Faults) (r : Resolver) (page : List Item) : Option Stage :=
  match f.crash with
  | some (0, .requested) => some .requested
  | some (0, stage) => if refused (objectAssignments r page) then some .globals else some stage
  | _ => if refused (objectAssignments r page) then some .globals else none

/-- The first failure on the pages: the given one, or a page that the database refuses. -/
def Faults.failure (r : Resolver) : List (List Item) → Faults → Option (ℕ × Stage)
  | [], f => f.crash
  | page :: pages, f =>
    match f.stage r page with
    | some stage => some (0, stage)
    | none => (Faults.failure r pages f.next).map fun (k, stage) => (k + 1, stage)

/-- The assignments that a failing page creates unless they are there. -/
def attemptedOnPage (r : Resolver) (page : List Item) : Stage → List Assignment
  | .requested => []
  | .globals => globalAssignments r page
  | .objects => page.filterMap (resolveSingleAssignment r)
  | .advanced => page.filterMap (resolveSingleAssignment r)

/-- The assignments that the pagination creates, unless they are there, before it ends or fails. -/
def attempted (r : Resolver) (pages : List (List Item)) : Option (ℕ × Stage) → List Assignment
  | none => pages.flatten.filterMap (resolveSingleAssignment r)
  | some (k, stage) =>
    (pages.take k).flatten.filterMap (resolveSingleAssignment r) ++
      (pages[k]?.toList.flatMap fun page => attemptedOnPage r page stage)

/-- The pagination fails: at one of its pages, or at the request that would have ended it. -/
def Fails (pages : List (List Item)) : Option (ℕ × Stage) → Prop
  | none => False
  | some (k, stage) => k < pages.length ∨ k = pages.length ∧ stage = .requested

instance (pages : List (List Item)) (failure : Option (ℕ × Stage)) :
    Decidable (Fails pages failure) :=
  match failure with
  | none => inferInstanceAs (Decidable False)
  | some (k, _) => inferInstanceAs (Decidable (k < pages.length ∨ k = pages.length ∧ _))

/-- A page that does not fail is not given a failure, and the database takes its object roles. -/
theorem Faults.stage_eq_none_iff :
    f.stage r page = none ↔
      (∀ stage, f.crash ≠ some (0, stage)) ∧ refused (objectAssignments r page) = false := by
  rcases hf : f.crash with _ | ⟨_ | k, _ | _⟩ <;>
    cases hrefused : refused (objectAssignments r page) <;>
      simp [Faults.stage, hf, hrefused]

/-- The database takes the object roles of a page that fails behind its object assignments. -/
theorem Faults.not_refused_of_stage {stage : Stage} (h : f.stage r page = some stage)
    (hstage : stage = .objects ∨ stage = .advanced) :
    refused (objectAssignments r page) = false := by
  by_contra hrefused
  rw [Bool.not_eq_false] at hrefused
  rcases hf : f.crash with _ | ⟨_ | k, _ | _⟩ <;> simp [Faults.stage, hf, hrefused] at h <;>
    rcases hstage with rfl | rfl <;> cases h

/-- The first failure is on the first page. -/
theorem Faults.failure_cons_of_some {stage : Stage} (h : f.stage r page = some stage) :
    f.failure r (page :: pages) = some (0, stage) := by
  simp [Faults.failure, h]

/-- The first failure is behind the first page. -/
theorem Faults.failure_cons_of_none (h : f.stage r page = none) :
    f.failure r (page :: pages) =
      (f.next.failure r pages).map fun (k, stage) => (k + 1, stage) := by
  simp [Faults.failure, h]

/-- A page that does not fail. -/
theorem paginateAndCreate_cons (h : f.stage r page = none) :
    ∃ first, (bulkResolveAndCreatePage r t page db).2 = some first ∧
      paginateAndCreate r slug t (page :: pages) f db =
        let rest := paginateAndCreate r slug t pages f.next
          (advanceCursor f slug t page (bulkResolveAndCreatePage r t page db).1)
        (rest.1, rest.2.map fun p =>
          ⟨first.created + p.created, first.objectRoles ++ p.objectRoles⟩) := by
  obtain ⟨hcrash, hrefused⟩ := Faults.stage_eq_none_iff.mp h
  rcases hpage : bulkResolveAndCreatePage r t page db with ⟨db₁, _ | first⟩
  · have hnone := bulkResolveAndCreatePage_eq_none_iff.mp (congrArg Prod.snd hpage)
    simp [hrefused] at hnone
  · refine ⟨first, rfl, ?_⟩
    rcases hf : f.crash with _ | ⟨_ | k, stage⟩
    · simp [paginateAndCreate, hf, hpage]
    · exact absurd hf (hcrash stage)
    · simp [paginateAndCreate, hf, hpage]

/-- A page that fails. -/
theorem paginateAndCreate_cons_of_some {stage : Stage} (h : f.stage r page = some stage) :
    paginateAndCreate r slug t (page :: pages) f db =
      (failPage r f slug t page db stage, none) := by
  -- A refused page leaves its global assignments, whatever it was given to fail at behind them.
  cases hrefused : refused (objectAssignments r page) with
  | false =>
      rcases hf : f.crash with _ | ⟨_ | k, _ | _⟩ <;>
        simp_all [Faults.stage, paginateAndCreate]
  | true =>
      have hpage : bulkResolveAndCreatePage r t page db = _ :=
        bulkResolveAndCreatePage_of_refused hrefused
      rcases hf : f.crash with _ | ⟨_ | k, _ | _⟩ <;>
        simp_all [Faults.stage, paginateAndCreate] <;>
        subst h <;> simp [failPage, hpage]

/-- What the pagination creates when its first page does not fail. -/
theorem attempted_cons {failure : Option (ℕ × Stage)} :
    attempted r (page :: pages) (failure.map fun (k, stage) => (k + 1, stage)) =
      page.filterMap (resolveSingleAssignment r) ++ attempted r pages failure := by
  rcases failure with _ | ⟨k, stage⟩ <;> simp [attempted]

/-- A failure after the first page. -/
theorem fails_cons {failure : Option (ℕ × Stage)} :
    Fails (page :: pages) (failure.map fun (k, stage) => (k + 1, stage)) ↔
      Fails pages failure := by
  rcases failure with _ | ⟨k, stage⟩ <;> simp [Fails]

/-- A page that fails behind its cursor has created what it resolves. -/
theorem failPage_advanced (h : f.stage r page = some .advanced) :
    failPage r f slug t page db .advanced =
      advanceCursor f slug t page (bulkResolveAndCreatePage r t page db).1 := by
  rcases hpage : bulkResolveAndCreatePage r t page db with ⟨db', _ | first⟩
  · have hrefused := bulkResolveAndCreatePage_eq_none_iff.mp (congrArg Prod.snd hpage)
    simp [Faults.not_refused_of_stage h (Or.inr rfl)] at hrefused
  · simp [failPage, hpage]

/-- What a failing page leaves in the database. -/
theorem mem_failPage {stage : Stage} (h : f.stage r page = some stage) :
    row ∈ (failPage r f slug t page db stage).assignments t' ↔
      row ∈ db.assignments t' ∨ t' = t ∧ row ∈ attemptedOnPage r page stage := by
  have hobjects (hstage : stage = .objects ∨ stage = .advanced) :
      createdOnPage r page = page.filterMap (resolveSingleAssignment r) :=
    if_neg (by simp [Faults.not_refused_of_stage h hstage])
  cases stage with
  | requested => simp [failPage, attemptedOnPage]
  | globals => exact mem_bulkCreateGlobalAssignments
  | objects => rw [failPage, mem_bulkResolveAndCreatePage, hobjects (Or.inl rfl), attemptedOnPage]
  | advanced =>
      rw [failPage_advanced h, advanceCursor_assignments, mem_bulkResolveAndCreatePage,
        hobjects (Or.inr rfl), attemptedOnPage]

/-- The database holds what it held before and what the pagination creates before it fails. -/
theorem mem_paginateAndCreate :
    row ∈ (paginateAndCreate r slug t pages f db).1.assignments t' ↔
      row ∈ db.assignments t' ∨ t' = t ∧ row ∈ attempted r pages (f.failure r pages) := by
  induction pages generalizing f db with
  | nil =>
      rcases hf : f.crash with _ | ⟨_ | k, _ | _⟩ <;>
        simp [paginateAndCreate, attempted, Faults.failure, hf]
  | cons page pages ih =>
      cases hstage : f.stage r page with
      | none =>
          -- The induction hypothesis holds for the database that this page leaves.
          obtain ⟨first, hfirst, hpage⟩ := paginateAndCreate_cons hstage
          rw [hpage, Faults.failure_cons_of_none hstage, attempted_cons, List.mem_append]
          simp only [ih, advanceCursor_assignments, mem_bulkResolveAndCreatePage,
            createdOnPage_of_some hfirst]
          tauto
      | some stage =>
          rw [paginateAndCreate_cons_of_some hstage, mem_failPage hstage,
            Faults.failure_cons_of_some hstage]
          simp [attempted]

/-- The pagination raises exactly when it fails. -/
theorem paginateAndCreate_eq_none_iff :
    (paginateAndCreate r slug t pages f db).2 = none ↔ Fails pages (f.failure r pages) := by
  induction pages generalizing f db with
  | nil =>
      rcases hf : f.crash with _ | ⟨_ | k, _ | _⟩ <;>
        simp [paginateAndCreate, Fails, Faults.failure, hf]
  | cons page pages ih =>
      cases hstage : f.stage r page with
      | none =>
          obtain ⟨first, -, hpage⟩ := paginateAndCreate_cons hstage
          rw [hpage, Faults.failure_cons_of_none hstage, fails_cons]
          simp only [Option.map_eq_none_iff, ih]
      | some stage =>
          simp [paginateAndCreate_cons_of_some hstage, Faults.failure_cons_of_some hstage, Fails]

/-- What the pagination hands back splits into its first page and the rest. -/
theorem paginateAndCreate_cons_some {p : Progress}
    (h : (paginateAndCreate r slug t (page :: pages) f db).2 = some p) :
    f.stage r page = none ∧
      ∃ first q, (bulkResolveAndCreatePage r t page db).2 = some first ∧
        (paginateAndCreate r slug t pages f.next
          (advanceCursor f slug t page (bulkResolveAndCreatePage r t page db).1)).2 = some q ∧
        p.created = first.created + q.created ∧
        p.objectRoles = first.objectRoles ++ q.objectRoles := by
  cases hstage : f.stage r page with
  | some stage => simp [paginateAndCreate_cons_of_some hstage] at h
  | none =>
      obtain ⟨first, hfirst, hpage⟩ := paginateAndCreate_cons hstage
      rw [hpage] at h
      obtain ⟨q, hq, rfl⟩ := Option.map_eq_some_iff.mp h
      exact ⟨rfl, first, q, hfirst, hq, rfl, rfl⟩

/-- The pagination hands back nothing on an empty list of pages. -/
theorem paginateAndCreate_nil_some {p : Progress}
    (h : (paginateAndCreate r slug t [] f db).2 = some p) : p = ⟨0, []⟩ := by
  rcases hf : f.crash with _ | ⟨_ | k, _ | _⟩ <;> simp_all [paginateAndCreate]

/-- The object roles that the pagination hands back. -/
theorem mem_paginateAndCreate_objectRoles {p : Progress} {o : ObjectRole}
    (h : (paginateAndCreate r slug t pages f db).2 = some p) :
    o ∈ p.objectRoles ↔
      ∃ row ∈ attempted r pages (f.failure r pages), row.objectRole = some o := by
  induction pages generalizing f db p with
  | nil =>
      rw [paginateAndCreate_nil_some h]
      rcases hf : f.crash with _ | ⟨k, stage⟩ <;> simp [attempted, Faults.failure, hf]
  | cons page pages ih =>
      obtain ⟨hstage, first, q, hfirst, hq, -, hroles⟩ := paginateAndCreate_cons_some h
      rw [hroles, Faults.failure_cons_of_none hstage, attempted_cons, List.mem_append,
        mem_bulkResolveAndCreatePage_objectRoles hfirst, ih hq]
      simp only [List.mem_append, or_and_right, exists_or]

/-- The pagination counts nothing exactly when it only meets global assignments that exist. -/
theorem paginateAndCreate_created_eq_zero_iff {p : Progress}
    (h : (paginateAndCreate r slug t pages f db).2 = some p) :
    p.created = 0 ↔
      ∀ row ∈ attempted r pages (f.failure r pages),
        row.objectRole = none ∧ row ∈ db.assignments t := by
  induction pages generalizing f db p with
  | nil =>
      rw [paginateAndCreate_nil_some h]
      rcases hf : f.crash with _ | ⟨k, stage⟩ <;> simp [attempted, Faults.failure, hf]
  | cons page pages ih =>
      obtain ⟨hstage, first, q, hfirst, hq, hcreated, -⟩ := paginateAndCreate_cons_some h
      rw [hcreated, Nat.add_eq_zero_iff, ih hq,
        bulkResolveAndCreatePage_created_eq_zero_iff hfirst, Faults.failure_cons_of_none hstage,
        attempted_cons, List.forall_mem_append]
      -- The rest of the pages starts from the database that the first page leaves.
      refine and_congr_right fun hpage => forall₂_congr fun row _ => and_congr_right fun _ => ?_
      rw [advanceCursor_assignments, mem_bulkResolveAndCreatePage, createdOnPage_of_some hfirst]
      constructor
      · rintro (hrow | ⟨-, hrow⟩)
        · exact hrow
        · exact (hpage row hrow).2
      · exact Or.inl

/-- A pagination that does not fail creates all that its pages resolve. -/
theorem attempted_of_not_fails {failure : Option (ℕ × Stage)} (h : ¬ Fails pages failure) :
    attempted r pages failure = pages.flatten.filterMap (resolveSingleAssignment r) := by
  rcases failure with _ | ⟨k, stage⟩
  · rfl
  · -- The failure would come after the last page, so all pages are taken.
    rw [Fails, not_or, not_lt] at h
    rw [attempted, List.take_of_length_le h.1, List.getElem?_eq_none h.1]
    simp

/-- The pagination moves no other cursor than its own. -/
theorem paginateAndCreate_cursor_of_ne {slug' : String} (h : ¬ (slug' = slug ∧ t' = t)) :
    (paginateAndCreate r slug t pages f db).1.cursor slug' t' = db.cursor slug' t' := by
  -- Only the advance writes a cursor, and it writes the one of its service and type.
  have hadvance : ∀ (f : Faults) (page : List Item) (db : Db),
      (advanceCursor f slug t page db).cursor slug' t' = db.cursor slug' t' := by
    intro f page db
    unfold advanceCursor
    split
    · rfl
    · split
      · rfl
      · by_cases hslug : slug' = slug
        · subst hslug
          have ht : t' ≠ t := fun ht => h ⟨rfl, ht⟩
          simp [Db.advance, ht]
        · simp [Db.advance, hslug]
  induction pages generalizing f db with
  | nil =>
      rcases hf : f.crash with _ | ⟨_ | k, _ | _⟩ <;> simp [paginateAndCreate, hf]
  | cons page pages ih =>
      cases hstage : f.stage r page with
      | none =>
          obtain ⟨first, -, hpage⟩ := paginateAndCreate_cons hstage
          rw [hpage]
          simp only [ih, hadvance, bulkResolveAndCreatePage_cursor]
      | some stage =>
          rw [paginateAndCreate_cons_of_some hstage]
          cases stage with
          | requested => rfl
          | globals => rfl
          | objects => rw [failPage, bulkResolveAndCreatePage_cursor]
          | advanced => rw [failPage_advanced hstage, hadvance, bulkResolveAndCreatePage_cursor]

end Pagination

section Run

variable {s : Service} {run : Run} {db : Db}

/-- The first failure of a run in one assignment type, if it gets there. -/
def Run.failure (run : Run) (s : Service) (db : Db) (t : AssignmentType) : Option (ℕ × Stage) :=
  (run.faults t).failure run.resolver (run.pages s t db)

/-- A run gets to the assignment type: to the teams only if the users did not fail. -/
def Run.Gets (run : Run) (s : Service) (db : Db) : AssignmentType → Prop
  | .user => True
  | .team => ¬ Fails (run.pages s .user db) (run.failure s db .user)

/-- The assignments of one type that a run creates, unless they are there, if it gets there. -/
def Run.attempted (run : Run) (s : Service) (db : Db) (t : AssignmentType) : List Assignment :=
  Migration.attempted run.resolver (run.pages s t db) (run.failure s db t)

/-- A run fails on the users, or fails on the teams, or completes. -/
theorem migrateRoleAssignments_cases (s : Service) (run : Run) (db : Db) :
    ((migrateType s run .user db).2 = none ∧
      migrateRoleAssignments s run db = ⟨(migrateType s run .user db).1, [], true⟩) ∨
    (∃ p, (migrateType s run .user db).2 = some p ∧
      (migrateType s run .team (migrateType s run .user db).1).2 = none ∧
      migrateRoleAssignments s run db =
        ⟨(migrateType s run .team (migrateType s run .user db).1).1, rebuilds p, true⟩) ∨
    (∃ p q, (migrateType s run .user db).2 = some p ∧
      (migrateType s run .team (migrateType s run .user db).1).2 = some q ∧
      migrateRoleAssignments s run db =
        ⟨(migrateType s run .team (migrateType s run .user db).1).1,
          rebuilds ⟨p.created + q.created, p.objectRoles ++ q.objectRoles⟩, false⟩) := by
  rcases hu : migrateType s run .user db with ⟨db₁, _ | p⟩
  · exact Or.inl ⟨rfl, by simp [migrateRoleAssignments, migrateTypes, hu, rebuilds]⟩
  · rcases ht : migrateType s run .team db₁ with ⟨db₂, _ | q⟩
    · exact Or.inr (Or.inl ⟨p, rfl, rfl, by
        simp [migrateRoleAssignments, migrateTypes, hu, ht]⟩)
    · exact Or.inr (Or.inr ⟨p, q, rfl, rfl, by
        simp [migrateRoleAssignments, migrateTypes, hu, ht]⟩)

/-- The pages of the teams do not depend on what the users left behind. -/
theorem Run.pages_team_after_user :
    run.pages s .team (migrateType s run .user db).1 = run.pages s .team db := by
  have hcursor : (migrateType s run .user db).1.cursor run.slug .team = db.cursor run.slug .team :=
    paginateAndCreate_cursor_of_ne (by simp)
  simp only [Run.pages, Faults.start, hcursor]

/-- The failure in the teams does not depend on what the users left behind. -/
theorem Run.failure_team_after_user :
    run.failure s (migrateType s run .user db).1 .team = run.failure s db .team := by
  simp only [Run.failure, Run.pages_team_after_user]

/-- What the part of a run for one assignment type leaves in the database. -/
theorem mem_migrateType {t t' : AssignmentType} {row : Assignment} :
    row ∈ (migrateType s run t db).1.assignments t' ↔
      row ∈ db.assignments t' ∨ t' = t ∧ row ∈ run.attempted s db t :=
  mem_paginateAndCreate

/-- The teams are attempted the same whatever the users left behind. -/
theorem Run.attempted_team_after_user :
    run.attempted s (migrateType s run .user db).1 .team = run.attempted s db .team := by
  simp only [Run.attempted, Run.failure_team_after_user, Run.pages_team_after_user]

/-- The part of a run for one assignment type raises exactly when it fails. -/
theorem migrateType_eq_none_iff {t : AssignmentType} :
    (migrateType s run t db).2 = none ↔ Fails (run.pages s t db) (run.failure s db t) :=
  paginateAndCreate_eq_none_iff

/-- The database after a run holds what it held before and what the run creates. -/
theorem mem_migrateRoleAssignments {t : AssignmentType} {row : Assignment} :
    row ∈ (migrateRoleAssignments s run db).db.assignments t ↔
      row ∈ db.assignments t ∨ run.Gets s db t ∧ row ∈ run.attempted s db t := by
  by_cases hfails : Fails (run.pages s .user db) (run.failure s db .user)
  · -- The users fail, and the teams are not reached.
    have hnone := migrateType_eq_none_iff.mpr hfails
    rcases migrateRoleAssignments_cases s run db with ⟨-, h⟩ | ⟨p, hp, -, -⟩ | ⟨p, q, hp, -, -⟩
    · rw [h]
      cases t <;> simp [mem_migrateType, Run.Gets, hfails]
    · simp [hnone] at hp
    · simp [hnone] at hp
  · have hsome : (migrateType s run .user db).2 ≠ none := fun h =>
      hfails (migrateType_eq_none_iff.mp h)
    rcases migrateRoleAssignments_cases s run db with ⟨h, -⟩ | ⟨p, -, -, h⟩ | ⟨p, q, -, -, h⟩
    · exact absurd h hsome
    all_goals
      rw [h]
      cases t <;>
        simp [mem_migrateType, Run.attempted_team_after_user, Run.Gets, hfails]

end Run

end AapGateway.Migration
