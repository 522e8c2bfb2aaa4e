import Mathlib
import AapGateway.Migration.RoleAssignments

/-!
# Rebuilding the RBAC caches after a migration

The migration writes its assignments in bulk, without the signals that keep the RBAC caches up to
date, and rebuilds the caches in a `finally` block. What has been created is counted page by page
inside `_paginate_and_create` and handed over by its return value. When a page fails, the counts
and the object roles of the earlier pages of the same assignment type are lost with it: their
assignments stay in the tables, and the `finally` block does not know of them.

## Main definitions

* `CachesRebuilt`: the caches are rebuilt for all that the run persisted;
* `LosesNothing`: a failure loses no bookkeeping that the rebuild needs.

## Main results

* `cachesRebuilt_iff_losesNothing`: the two are equivalent.
-/

namespace AapGateway.Migration

/-- The run persisted the assignment. -/
def Persisted (s : Service) (run : Run) (db : Db) (t : AssignmentType) (row : Assignment) : Prop :=
  row ∈ (migrateRoleAssignments s run db).db.assignments t ∧ row ∉ db.assignments t

/-- If the run persisted anything, the team member roles are recomputed, and the permissions of
every object role for which it persisted an assignment. -/
def CachesRebuilt (s : Service) (run : Run) (db : Db) : Prop :=
  (∃ t row, Persisted s run db t row) →
    Rebuild.computeTeamMemberRoles ∈ (migrateRoleAssignments s run db).rebuilds ∧
    ∀ t row o, Persisted s run db t row → row.objectRole = some o →
      ∃ objectRoles, o ∈ objectRoles ∧
        .computeObjectRolePermissions objectRoles ∈ (migrateRoleAssignments s run db).rebuilds

/-- The assignment exists before the run. -/
def AllExisted (s : Service) (run : Run) (db : Db) (t : AssignmentType) : Prop :=
  ∀ row ∈ run.attempted s db t, row ∈ db.assignments t

/-- A failure loses no bookkeeping that the rebuild needs. If the users fail, all they got to
existed before. If the teams fail, all they got to existed before, or the users have counted
something and have come upon every object role that the teams add an assignment to. -/
def LosesNothing (s : Service) (run : Run) (db : Db) : Prop :=
  if Fails (run.pages s .user db) (run.failure s db .user) then AllExisted s run db .user
  else if Fails (run.pages s .team db) (run.failure s db .team) then
    AllExisted s run db .team ∨
      (∃ row ∈ run.attempted s db .user, row.objectRole ≠ none ∨ row ∉ db.assignments .user) ∧
      ∀ row ∈ run.attempted s db .team, row ∉ db.assignments .team →
        ∀ o, row.objectRole = some o →
          ∃ row' ∈ run.attempted s db .user, row'.objectRole = some o
  else True

section Rebuilds

variable {total : Progress} {o : ObjectRole}

/-- The team member roles are recomputed exactly when something was counted. -/
theorem computeTeamMemberRoles_mem_rebuilds :
    Rebuild.computeTeamMemberRoles ∈ rebuilds total ↔ total.created ≠ 0 := by
  unfold rebuilds
  split
  · simpa
  · split <;> simpa

/-- The recomputed object roles are those that were handed over. -/
theorem computeObjectRolePermissions_mem_rebuilds :
    (∃ objectRoles, o ∈ objectRoles ∧ .computeObjectRolePermissions objectRoles ∈ rebuilds total) ↔
      total.created ≠ 0 ∧ o ∈ total.objectRoles := by
  unfold rebuilds
  split
  · simp_all
  · split
    · simp_all
    · simp_all

end Rebuilds

section Run

variable {s : Service} {run : Run} {db : Db} {t : AssignmentType} {row : Assignment}
  {o : ObjectRole} {p : Progress}

/-- The run persisted what it tried to create and did not exist. -/
theorem persisted_iff :
    Persisted s run db t row ↔
      run.Gets s db t ∧ row ∈ run.attempted s db t ∧ row ∉ db.assignments t := by
  rw [Persisted, mem_migrateRoleAssignments]
  tauto

/-- What one assignment type counts. -/
theorem migrateType_created_ne_zero_iff (h : (migrateType s run t db).2 = some p) :
    p.created ≠ 0 ↔
      ∃ row ∈ run.attempted s db t, row.objectRole ≠ none ∨ row ∉ db.assignments t := by
  rw [Ne, paginateAndCreate_created_eq_zero_iff h]
  simp only [not_forall, not_and_or, exists_prop]
  rfl

/-- The object roles that one assignment type hands over. -/
theorem mem_migrateType_objectRoles (h : (migrateType s run t db).2 = some p) :
    o ∈ p.objectRoles ↔ ∃ row ∈ run.attempted s db t, row.objectRole = some o :=
  mem_paginateAndCreate_objectRoles h

/-- If the users fail, nothing is rebuilt. -/
theorem cachesRebuilt_iff_of_user_fails
    (hfails : Fails (run.pages s .user db) (run.failure s db .user))
    (h : (migrateRoleAssignments s run db).rebuilds = []) :
    CachesRebuilt s run db ↔ AllExisted s run db .user := by
  unfold CachesRebuilt
  rw [h]
  constructor
  · intro hrebuilt row hrow
    by_contra hnew
    have hpersisted : Persisted s run db .user row := persisted_iff.mpr ⟨trivial, hrow, hnew⟩
    exact List.not_mem_nil (hrebuilt ⟨.user, row, hpersisted⟩).1
  · rintro hexisted ⟨t, row, hpersisted⟩
    obtain ⟨hgets, hrow, hnew⟩ := persisted_iff.mp hpersisted
    cases t with
    | user => exact absurd (hexisted row hrow) hnew
    | team => exact absurd hfails hgets

/-- If the teams fail, what the users handed over is rebuilt. -/
theorem cachesRebuilt_iff_of_team_fails
    (huser : ¬ Fails (run.pages s .user db) (run.failure s db .user))
    (hp : (migrateType s run .user db).2 = some p)
    (h : (migrateRoleAssignments s run db).rebuilds = rebuilds p) :
    CachesRebuilt s run db ↔
      AllExisted s run db .team ∨
        (∃ row ∈ run.attempted s db .user, row.objectRole ≠ none ∨ row ∉ db.assignments .user) ∧
        ∀ row ∈ run.attempted s db .team, row ∉ db.assignments .team →
          ∀ o, row.objectRole = some o →
            ∃ row' ∈ run.attempted s db .user, row'.objectRole = some o := by
  simp only [CachesRebuilt, h, computeTeamMemberRoles_mem_rebuilds,
    computeObjectRolePermissions_mem_rebuilds, migrateType_created_ne_zero_iff hp,
    mem_migrateType_objectRoles hp]
  constructor
  · intro hrebuilt
    by_cases hexisted : AllExisted s run db .team
    · exact Or.inl hexisted
    · unfold AllExisted at hexisted
      push Not at hexisted
      obtain ⟨row, hrow, hnew⟩ := hexisted
      have hpersisted : Persisted s run db .team row := persisted_iff.mpr ⟨huser, hrow, hnew⟩
      obtain ⟨hcounted, hroles⟩ := hrebuilt ⟨.team, row, hpersisted⟩
      refine Or.inr ⟨hcounted, fun row' hrow' hnew' o ho => ?_⟩
      exact (hroles .team row' o (persisted_iff.mpr ⟨huser, hrow', hnew'⟩) ho).2
  · rintro hlost ⟨t, row, hpersisted⟩
    -- Whatever is new among the users has been counted.
    have hcounted : ∃ row ∈ run.attempted s db .user,
        row.objectRole ≠ none ∨ row ∉ db.assignments .user := by
      obtain ⟨-, hrow, hnew⟩ := persisted_iff.mp hpersisted
      cases t with
      | user => exact ⟨row, hrow, Or.inr hnew⟩
      | team =>
          rcases hlost with hexisted | ⟨hcounted, -⟩
          · exact absurd (hexisted row hrow) hnew
          · exact hcounted
    refine ⟨hcounted, fun t' row' o hpersisted' ho => ⟨hcounted, ?_⟩⟩
    obtain ⟨-, hrow', hnew'⟩ := persisted_iff.mp hpersisted'
    cases t' with
    | user => exact ⟨row', hrow', ho⟩
    | team =>
        rcases hlost with hexisted | ⟨-, hroles⟩
        · exact absurd (hexisted row' hrow') hnew'
        · exact hroles row' hrow' hnew' o ho

/-- If nothing fails, everything is rebuilt. -/
theorem cachesRebuilt_of_completes {q : Progress}
    (hp : (migrateType s run .user db).2 = some p)
    (hq : (migrateType s run .team (migrateType s run .user db).1).2 = some q)
    (h : (migrateRoleAssignments s run db).rebuilds =
      rebuilds ⟨p.created + q.created, p.objectRoles ++ q.objectRoles⟩) :
    CachesRebuilt s run db := by
  have hcounted : ∀ t row, Persisted s run db t row → p.created + q.created ≠ 0 := by
    intro t row hpersisted
    obtain ⟨-, hrow, hnew⟩ := persisted_iff.mp hpersisted
    cases t with
    | user =>
        have hp0 := (migrateType_created_ne_zero_iff hp).mpr ⟨row, hrow, Or.inr hnew⟩
        omega
    | team =>
        have hq0 := (migrateType_created_ne_zero_iff hq).mpr ⟨row, ?_, Or.inr ?_⟩
        · omega
        · rwa [Run.attempted_team_after_user]
        · simpa [mem_migrateType] using hnew
  rintro ⟨t, row, hpersisted⟩
  rw [h, computeTeamMemberRoles_mem_rebuilds]
  refine ⟨hcounted t row hpersisted, fun t' row' o hpersisted' ho => ?_⟩
  rw [computeObjectRolePermissions_mem_rebuilds]
  refine ⟨hcounted t row hpersisted, List.mem_append.mpr ?_⟩
  obtain ⟨-, hrow', -⟩ := persisted_iff.mp hpersisted'
  cases t' with
  | user => exact Or.inl ((mem_migrateType_objectRoles hp).mpr ⟨row', hrow', ho⟩)
  | team =>
      refine Or.inr ((mem_migrateType_objectRoles hq).mpr ⟨row', ?_, ho⟩)
      rwa [Run.attempted_team_after_user]

end Run

/-- The caches are rebuilt for all that a run persisted exactly when its failure, if any, loses no
bookkeeping that the rebuild needs. -/
theorem cachesRebuilt_iff_losesNothing (s : Service) (run : Run) (db : Db) :
    CachesRebuilt s run db ↔ LosesNothing s run db := by
  unfold LosesNothing
  rcases migrateRoleAssignments_cases s run db with
    ⟨hu, h⟩ | ⟨p, hp, ht, h⟩ | ⟨p, q, hp, hq, h⟩
  · have huser := migrateType_eq_none_iff.mp hu
    rw [if_pos huser]
    exact cachesRebuilt_iff_of_user_fails huser (by rw [h])
  · have huser : ¬ Fails (run.pages s .user db) (run.failure s db .user) := by
      rw [← migrateType_eq_none_iff, hp]
      simp
    have hteam := migrateType_eq_none_iff.mp ht
    rw [Run.pages_team_after_user, Run.failure_team_after_user] at hteam
    rw [if_neg huser, if_pos hteam]
    exact cachesRebuilt_iff_of_team_fails huser hp (by rw [h])
  · have huser : ¬ Fails (run.pages s .user db) (run.failure s db .user) := by
      rw [← migrateType_eq_none_iff, hp]
      simp
    have hteam : ¬ Fails (run.pages s .team db) (run.failure s db .team) := by
      rw [← Run.failure_team_after_user, ← Run.pages_team_after_user, ← migrateType_eq_none_iff, hq]
      simp
    rw [if_neg huser, if_neg hteam, iff_true]
    exact cachesRebuilt_of_completes hp hq (by rw [h])

/-- A controller with two assignments of users, on two pages. -/
def twoPageController : Service where
  serviceType := "controller"
  pageSize := 1
  assignments
    | .user => [⟨1, "Inventory Admin", some "0b1c", none, some "7"⟩,
        ⟨2, "Inventory Admin", some "0b1c", none, some "8"⟩]
    | .team => []
  pageSize_pos := by decide
  nodup_ids t := by cases t <;> decide
  id_pos t := by cases t <;> decide

/-- A run in which the request for the second page of the users fails. -/
def failingRun : Run where
  slug := "controller"
  resolver := ⟨fun _ => some ⟨3, some 9⟩, fun _ => some 5, fun _ => none⟩
  faults
    | .user => ⟨false, fun _ => false, some (1, .requested)⟩
    | .team => ⟨false, fun _ => false, none⟩

/-- The assignment of the first page is persisted, and no cache is rebuilt. -/
theorem not_cachesRebuilt_twoPageController :
    ¬ CachesRebuilt twoPageController failingRun ⟨fun _ => [], fun _ _ => 0⟩ := by
  intro h
  have hpersisted : Persisted twoPageController failingRun ⟨fun _ => [], fun _ _ => 0⟩ .user
      ⟨5, 3, some ⟨3, some 9, "7"⟩⟩ := by
    unfold Persisted
    decide
  have hrebuilt := (h ⟨.user, _, hpersisted⟩).1
  revert hrebuilt
  decide

end AapGateway.Migration
