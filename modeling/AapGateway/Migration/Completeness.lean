import Mathlib
import AapGateway.Migration.RoleAssignments

/-!
# Completeness of the migration of role assignments

A run that fails is repeated, and starts again at the persisted cursor. The assignments up to the
cursor are never looked at again. So the migration is complete when everything up to the cursor
exists in the gateway. A page advances the cursor also past the assignments that it skipped
because the gateway did not know their role, actor or object yet. These are lost to all later
runs, even if the gateway comes to know all that they refer to.

## Main definitions

* `CompleteAfter`: a last run that resolves everything and completes leaves nothing out;
* `PersistsResolved`: a run persists the cursor past assignments that it resolved only;
* `Covered`: the invariant, that the assignments up to the cursor exist.

## Main results

* `completeAfter_of_persistsResolved`: the migration is complete if its runs persist the cursor
  past resolved assignments only.
-/

namespace AapGateway.Migration

/-- The assignment of a service exists in the gateway, by what the gateway finally resolves. -/
def Migrated (full : Resolver) (db : Db) (t : AssignmentType) (item : Item) : Prop :=
  ∃ row, resolveSingleAssignment full item = some row ∧ row ∈ db.assignments t

/-- What one resolver finds is found by another one as well. -/
structure Resolver.Le (r full : Resolver) : Prop where
  role : ∀ name rd, r.role name = some rd → full.role name = some rd
  actor : ∀ id pk, r.actor id = some pk → full.actor id = some pk
  object : ∀ id pk, r.object id = some pk → full.object id = some pk

/-- The database after a sequence of runs, for the services by their slug. -/
def afterRuns (services : String → Service) (runs : List Run) (db : Db) : Db :=
  runs.foldl (fun db run => (migrateRoleAssignments (services run.slug) run db).db) db

/-- If everything resolves in the last run and it completes, all that is not excluded exists. -/
def CompleteAfter (services : String → Service) (runs : List Run) (last : Run) (db : Db) : Prop :=
  let outcome := migrateRoleAssignments (services last.slug) last (afterRuns services runs db)
  (∀ t, ∀ item ∈ (services last.slug).included t,
    (resolveSingleAssignment last.resolver item).isSome = true) →
  outcome.raised = false →
  ∀ t, ∀ item ∈ (services last.slug).included t, Migrated last.resolver outcome.db t item

/-- The cursor is persisted after the page: the upsert succeeds, and the run does not fail before
it. -/
def Persists (f : Faults) (failure : Option (ℕ × Stage)) (k : ℕ) : Prop :=
  f.advance k = false ∧ ∀ j stage, failure = some (j, stage) → k < j ∨ k = j ∧ stage = .advanced

/-- When a run persists the cursor after a page, it has resolved the page and those before. -/
def PersistsResolved (s : Service) (run : Run) (db : Db) : Prop :=
  ∀ t, run.Gets s db t → ∀ k < (run.pages s t db).length,
    Persists (run.faults t) (run.failure s db t) k →
      ∀ page ∈ (run.pages s t db).take (k + 1), ∀ item ∈ page,
        (resolveSingleAssignment run.resolver item).isSome = true

/-- All runs of one service persist the cursor past resolved assignments only. -/
def AllPersistResolved (services : String → Service) (slug : String) : List Run → Db → Prop
  | [], _ => True
  | run :: runs, db =>
    (run.slug = slug → PersistsResolved (services slug) run db) ∧
      AllPersistResolved services slug runs (migrateRoleAssignments (services run.slug) run db).db

/-- The assignments up to the cursor exist. -/
def Covered (full : Resolver) (s : Service) (slug : String) (db : Db) (t : AssignmentType) : Prop :=
  ∀ item ∈ s.included t, item.id ≤ db.cursor slug t → Migrated full db t item

section Resolve

variable {r full : Resolver} {item : Item} {row : Assignment}

/-- A resolver that finds more resolves to the same. -/
theorem resolveSingleAssignment_of_le (hle : r.Le full)
    (h : resolveSingleAssignment r item = some row) :
    resolveSingleAssignment full item = some row := by
  simp only [resolveSingleAssignment, Option.bind_eq_bind, Option.bind_eq_some_iff] at h ⊢
  obtain ⟨actorId, hactorId, roleName, hroleName, rd, hrd, actor, hactor, h⟩ := h
  refine ⟨actorId, hactorId, roleName, hroleName, rd, hle.role _ _ hrd, actor,
    hle.actor _ _ hactor, ?_⟩
  cases hobject : truthy item.objectAnsibleId with
  | none => simpa [hobject] using h
  | some objectAnsibleId =>
      simp only [hobject, Option.bind_eq_some_iff] at h ⊢
      obtain ⟨objectId, hfound, h⟩ := h
      exact ⟨objectId, hle.object _ _ hfound, h⟩

/-- An item of a page that resolves exists when the page's assignments do. -/
theorem migrated_of_isSome {db : Db} {t : AssignmentType} {items : List Item} (hle : r.Le full)
    (hitem : item ∈ items) (hsome : (resolveSingleAssignment r item).isSome = true)
    (hrows : ∀ row ∈ items.filterMap (resolveSingleAssignment r), row ∈ db.assignments t) :
    Migrated full db t item := by
  obtain ⟨row, hrow⟩ := Option.isSome_iff_exists.mp hsome
  exact ⟨row, resolveSingleAssignment_of_le hle hrow,
    hrows row (List.mem_filterMap.mpr ⟨item, hitem, hrow⟩)⟩

/-- Assignments are never removed. -/
theorem Migrated.mono {db db' : Db} {t : AssignmentType} (h : Migrated full db t item)
    (hsub : ∀ row ∈ db.assignments t, row ∈ db'.assignments t) : Migrated full db' t item := by
  obtain ⟨row, hrow, hmem⟩ := h
  exact ⟨row, hrow, hsub row hmem⟩

end Resolve

section Pagination

variable {r full : Resolver} {s : Service} {slug : String} {t : AssignmentType} {f : Faults}
  {db : Db} {last : Item} {after : ℕ}

/-- The ids of the items that a service lists are distinct. -/
theorem Service.nodup_included (s : Service) (t : AssignmentType) :
    ((s.included t).map Item.id).Nodup :=
  (s.nodup_ids t).sublist (List.filter_sublist.map Item.id)

/-- The cursor after a page. -/
theorem advanceCursor_cursor {page : List Item} (hlast : page.getLast? = some last) :
    (advanceCursor f slug t page db).cursor slug t =
      if f.advance 0 then db.cursor slug t else last.id := by
  simp only [advanceCursor, hlast]
  split
  · rfl
  · simp [Db.advance]

/-- A resolved page extends the part of the service that exists up to its last id. -/
theorem migrated_after_page (hle : r.Le full)
    (hlast : (Keyset.fetch Item.id s.pageSize (s.included t) (some after)).getLast? = some last)
    (hcreated : createdOnPage r (Keyset.fetch Item.id s.pageSize (s.included t) (some after)) =
      (Keyset.fetch Item.id s.pageSize (s.included t) (some after)).filterMap
        (resolveSingleAssignment r))
    (hseen : ∀ item ∈ s.included t, item.id ≤ after → Migrated full db t item)
    (hpage : ∀ item ∈ Keyset.fetch Item.id s.pageSize (s.included t) (some after),
      (resolveSingleAssignment r item).isSome = true) :
    ∀ item ∈ s.included t, item.id ≤ last.id →
      Migrated full (bulkResolveAndCreatePage r t
        (Keyset.fetch Item.id s.pageSize (s.included t) (some after)) db).1 t item := by
  intro item hitem hid
  by_cases hafter : item.id ≤ after
  · exact (hseen item hitem hafter).mono fun row hrow =>
      mem_bulkResolveAndCreatePage.mpr (Or.inl hrow)
  · -- The page has no gaps, so the item is on it.
    have hpast : Keyset.past (some after) item.id = true := by
      simpa [Keyset.past] using hafter
    have hmem := Keyset.mem_fetch_of_le_last (s.nodup_included t) hlast hitem hpast hid
    exact migrated_of_isSome hle hmem (hpage item hmem) fun row hrow =>
      mem_bulkResolveAndCreatePage.mpr (Or.inr ⟨rfl, hcreated ▸ hrow⟩)

/-- The assignments up to the cursor exist after a page, with the cursor advanced or not. -/
theorem covered_advanceCursor (hle : r.Le full)
    (hlast : (Keyset.fetch Item.id s.pageSize (s.included t) (some after)).getLast? = some last)
    (hcreated : createdOnPage r (Keyset.fetch Item.id s.pageSize (s.included t) (some after)) =
      (Keyset.fetch Item.id s.pageSize (s.included t) (some after)).filterMap
        (resolveSingleAssignment r))
    (hcovered : Covered full s slug db t)
    (hadvance : f.advance 0 = false →
      (∀ item ∈ s.included t, item.id ≤ after → Migrated full db t item) ∧
      ∀ item ∈ Keyset.fetch Item.id s.pageSize (s.included t) (some after),
        (resolveSingleAssignment r item).isSome = true) :
    Covered full s slug (advanceCursor f slug t
      (Keyset.fetch Item.id s.pageSize (s.included t) (some after))
      (bulkResolveAndCreatePage r t
        (Keyset.fetch Item.id s.pageSize (s.included t) (some after)) db).1) t := by
  intro item hitem hid
  rw [advanceCursor_cursor hlast] at hid
  refine Migrated.mono ?_ (fun row hrow => by rwa [advanceCursor_assignments])
  cases hf : f.advance 0 with
  | true =>
      rw [if_pos hf, bulkResolveAndCreatePage_cursor] at hid
      exact (hcovered item hitem hid).mono fun row hrow =>
        mem_bulkResolveAndCreatePage.mpr (Or.inl hrow)
  | false =>
      rw [if_neg (by simp [hf])] at hid
      obtain ⟨hseen, hpage⟩ := hadvance hf
      exact migrated_after_page hle hlast hcreated hseen hpage item hitem hid

/-- The pages behind the first one persist the cursor when they do so from there on. -/
theorem persists_next_iff (failure : Option (ℕ × Stage)) (k : ℕ) :
    Persists f.next failure k ↔
      Persists f (failure.map fun (k, stage) => (k + 1, stage)) (k + 1) := by
  rcases failure with _ | ⟨j, stage⟩ <;> simp [Persists, Faults.next]

/-- The first page persists the cursor when the failure is behind it. -/
theorem persists_zero (failure : Option (ℕ × Stage)) (hadvance : f.advance 0 = false) :
    Persists f (failure.map fun (k, stage) => (k + 1, stage)) 0 := by
  rcases failure with _ | ⟨j, stage⟩ <;> simp [Persists, hadvance]

/-- The first page persists the cursor when it fails after that. -/
theorem persists_zero_of_advanced (hadvance : f.advance 0 = false) :
    Persists f (some (0, .advanced)) 0 := by
  simp [Persists, hadvance]

/-- The assignments up to the cursor exist after a page that fails. Only its last stage moves the
cursor. -/
theorem covered_failPage (hle : r.Le full) {stage : Stage}
    (hlast : (Keyset.fetch Item.id s.pageSize (s.included t) (some after)).getLast? = some last)
    (hstage : f.stage r (Keyset.fetch Item.id s.pageSize (s.included t) (some after)) = some stage)
    (hcovered : Covered full s slug db t)
    (hpersists : Persists f (some (0, stage)) 0 →
      (∀ item ∈ s.included t, item.id ≤ after → Migrated full db t item) ∧
      ∀ item ∈ Keyset.fetch Item.id s.pageSize (s.included t) (some after),
        (resolveSingleAssignment r item).isSome = true) :
    Covered full s slug (failPage r f slug t
      (Keyset.fetch Item.id s.pageSize (s.included t) (some after)) db stage) t := by
  have hsub : ∀ row ∈ db.assignments t, row ∈ (failPage r f slug t
      (Keyset.fetch Item.id s.pageSize (s.included t) (some after)) db stage).assignments t :=
    fun row hrow => (mem_failPage hstage).mpr (Or.inl hrow)
  cases stage with
  | requested => exact hcovered
  | globals => exact fun item hitem hid => (hcovered item hitem hid).mono hsub
  | objects =>
      intro item hitem hid
      rw [failPage, bulkResolveAndCreatePage_cursor] at hid
      exact (hcovered item hitem hid).mono hsub
  | advanced =>
      have hcreated :
          createdOnPage r (Keyset.fetch Item.id s.pageSize (s.included t) (some after)) =
          (Keyset.fetch Item.id s.pageSize (s.included t) (some after)).filterMap
            (resolveSingleAssignment r) :=
        if_neg (by simp [Faults.not_refused_of_stage hstage (Or.inr rfl)])
      rw [failPage_advanced hstage]
      exact covered_advanceCursor hle hlast hcreated hcovered fun hadvance =>
        hpersists (persists_zero_of_advanced hadvance)

/-- The pagination keeps the assignments up to the cursor. The induction carries what is known of
the pages before: if any later page persists the cursor, they have all been resolved. -/
theorem covered_paginateAndCreate (hle : r.Le full) (fuel : ℕ) {pages : List (List Item)}
    (hpages : pages = Keyset.pages Item.id s.pageSize (s.included t) fuel (some after))
    (hcovered : Covered full s slug db t)
    (hseen : ∀ k < pages.length, Persists f (f.failure r pages) k →
      ∀ item ∈ s.included t, item.id ≤ after → Migrated full db t item)
    (hresolved : ∀ k < pages.length, Persists f (f.failure r pages) k →
      ∀ page ∈ pages.take (k + 1), ∀ item ∈ page,
        (resolveSingleAssignment r item).isSome = true) :
    Covered full s slug (paginateAndCreate r slug t pages f db).1 t := by
  -- Without a page the database stays as it is.
  have hnil : Covered full s slug (paginateAndCreate r slug t [] f db).1 t := by
    rcases hf : f.crash with _ | ⟨_ | k, _ | _⟩ <;> simpa [paginateAndCreate, hf] using hcovered
  induction fuel generalizing after f db pages with
  | zero =>
      subst hpages
      exact hnil
  | succ fuel ih =>
      cases hlast : (Keyset.fetch Item.id s.pageSize (s.included t) (some after)).getLast? with
      | none =>
          simp only [Keyset.pages, hlast] at hpages
          subst hpages
          exact hnil
      | some last =>
          simp only [Keyset.pages, hlast] at hpages
          set page := Keyset.fetch Item.id s.pageSize (s.included t) (some after) with hpage
          set rest := Keyset.pages Item.id s.pageSize (s.included t) fuel (some last.id) with hrest
          subst hpages
          cases hstage : f.stage r page with
          | none =>
              -- The page succeeds, and the run goes on behind its last id.
              have hfirst : ∃ first, (bulkResolveAndCreatePage r t page db).2 = some first ∧
                  paginateAndCreate r slug t (page :: rest) f db = _ :=
                paginateAndCreate_cons hstage
              obtain ⟨first, hfirst, hcons⟩ := hfirst
              have hcreated := createdOnPage_of_some hfirst
              rw [hcons]
              rw [Faults.failure_cons_of_none hstage] at hseen hresolved
              have hcovered' : Covered full s slug (advanceCursor f slug t page
                  (bulkResolveAndCreatePage r t page db).1) t :=
                covered_advanceCursor hle hlast hcreated hcovered fun hadvance =>
                  have hpersists := persists_zero _ hadvance
                  ⟨hseen 0 (by simp) hpersists, fun item hitem =>
                    hresolved 0 (by simp) hpersists page (by simp) item hitem⟩
              refine ih rfl hcovered' ?_ ?_ ?_
              · intro k hk hpersists item hitem hid
                rw [persists_next_iff] at hpersists
                refine Migrated.mono ?_ (fun row hrow => by rwa [advanceCursor_assignments])
                exact migrated_after_page hle hlast hcreated
                  (hseen (k + 1) (by simpa using hk) hpersists)
                  (fun item hitem => hresolved (k + 1) (by simpa using hk) hpersists page (by simp)
                    item hitem) item hitem hid
              · intro k hk hpersists page' hpage' item hitem
                rw [persists_next_iff] at hpersists
                exact hresolved (k + 1) (by simpa using hk) hpersists page'
                  (by simpa using Or.inr hpage') item hitem
              · rcases hf : f.next.crash with _ | ⟨_ | k, _ | _⟩ <;>
                  simpa [paginateAndCreate, hf] using hcovered'
          | some stage =>
              -- The run ends on this page.
              rw [paginateAndCreate_cons_of_some hstage]
              rw [Faults.failure_cons_of_some hstage] at hseen hresolved
              exact covered_failPage hle hlast hstage hcovered fun hpersists =>
                ⟨hseen 0 (by simp) hpersists, fun item hitem =>
                  hresolved 0 (by simp) hpersists page (by simp) item hitem⟩

end Pagination

section Run

variable {full : Resolver} {s : Service} {slug : String} {run : Run} {t t' : AssignmentType}
  {db : Db}

/-- The part of a run for one assignment type removes no assignment. -/
theorem mem_migrateType_of_mem {row : Assignment} (h : row ∈ db.assignments t') :
    row ∈ (migrateType s run t db).1.assignments t' :=
  mem_paginateAndCreate.mpr (Or.inl h)

/-- The items up to the loaded cursor exist. -/
theorem migrated_of_le_start (hcovered : Covered full s run.slug db t) :
    ∀ item ∈ s.included t, item.id ≤ (run.faults t).start db run.slug t →
      Migrated full db t item := by
  intro item hitem hid
  unfold Faults.start at hid
  split at hid
  · -- The cursor could not be loaded, and no id is zero.
    have hpos := s.id_pos t item (List.mem_of_mem_filter hitem)
    omega
  · exact hcovered item hitem hid

/-- The part of a run for one assignment type keeps the assignments up to its cursor. -/
theorem covered_migrateType (hle : run.resolver.Le full) (hcovered : Covered full s run.slug db t)
    (hpages : ∀ k < (run.pages s t db).length,
      Persists (run.faults t) (run.failure s db t) k → ∀ page ∈ (run.pages s t db).take (k + 1),
        ∀ item ∈ page, (resolveSingleAssignment run.resolver item).isSome = true) :
    Covered full s run.slug (migrateType s run t db).1 t :=
  covered_paginateAndCreate hle _ rfl hcovered
    (fun _ _ _ => migrated_of_le_start hcovered) hpages

/-- The assignments up to another cursor are kept as well. -/
theorem covered_migrateType_of_ne {s' : Service} (hne : ¬ (slug = run.slug ∧ t' = t))
    (hcovered : Covered full s slug db t') :
    Covered full s slug (migrateType s' run t db).1 t' := by
  intro item hitem hid
  have hcursor : (migrateType s' run t db).1.cursor slug t' = db.cursor slug t' :=
    paginateAndCreate_cursor_of_ne hne
  rw [hcursor] at hid
  exact (hcovered item hitem hid).mono fun row hrow => mem_migrateType_of_mem hrow

/-- A run keeps what both of its parts keep. -/
theorem migrateRoleAssignments_db_induction {P : Db → Prop} (hdb : P (migrateType s run .user db).1)
    (hteam : (migrateType s run .user db).2 ≠ none → P (migrateType s run .user db).1 →
      P (migrateType s run .team (migrateType s run .user db).1).1) :
    P (migrateRoleAssignments s run db).db := by
  rcases migrateRoleAssignments_cases s run db with ⟨-, h⟩ | ⟨p, hp, -, h⟩ | ⟨p, q, hp, -, h⟩
  · rw [h]
    exact hdb
  · rw [h]
    exact hteam (by simp [hp]) hdb
  · rw [h]
    exact hteam (by simp [hp]) hdb

/-- A run of another service keeps the assignments up to the cursors. -/
theorem covered_migrateRoleAssignments_of_ne {s' : Service} (hne : slug ≠ run.slug)
    (hcovered : Covered full s slug db t) :
    Covered full s slug (migrateRoleAssignments s' run db).db t :=
  migrateRoleAssignments_db_induction (P := fun db => Covered full s slug db t)
    (covered_migrateType_of_ne (fun h => hne h.1) hcovered)
    (fun _ h => covered_migrateType_of_ne (fun h => hne h.1) h)

/-- A run that persists its cursors past resolved assignments only keeps the assignments up to the
cursors. -/
theorem covered_migrateRoleAssignments (hle : run.resolver.Le full)
    (hcovered : ∀ t, Covered full s run.slug db t) (hsafe : PersistsResolved s run db) :
    ∀ t, Covered full s run.slug (migrateRoleAssignments s run db).db t := by
  have huser : ∀ t, Covered full s run.slug (migrateType s run .user db).1 t := by
    intro t
    cases t with
    | user => exact covered_migrateType hle (hcovered .user) (hsafe .user trivial)
    | team => exact covered_migrateType_of_ne (by simp) (hcovered .team)
  refine migrateRoleAssignments_db_induction
    (P := fun db => ∀ t, Covered full s run.slug db t) huser fun hsome _ t => ?_
  have hgets : run.Gets s db .team := by
    rw [Ne, migrateType, paginateAndCreate_eq_none_iff] at hsome
    exact hsome
  cases t with
  | user => exact covered_migrateType_of_ne (by simp) (huser .user)
  | team =>
      refine covered_migrateType hle (huser .team) ?_
      -- The first part leaves the cursor of the team assignments, and with it their pages.
      rw [Run.pages_team_after_user, Run.failure_team_after_user]
      exact hsafe .team hgets

/-- Runs that persist their cursors past resolved assignments only keep the assignments up to the
cursors. -/
theorem covered_afterRuns {services : String → Service} {runs : List Run}
    (hle : ∀ run ∈ runs, run.slug = slug → run.resolver.Le full)
    (hcovered : ∀ t, Covered full (services slug) slug db t)
    (hsafe : AllPersistResolved services slug runs db) :
    ∀ t, Covered full (services slug) slug (afterRuns services runs db) t := by
  induction runs generalizing db with
  | nil => exact hcovered
  | cons run runs ih =>
      obtain ⟨hrun, hruns⟩ := hsafe
      have hle' : ∀ run ∈ runs, run.slug = slug → run.resolver.Le full :=
        fun run' hrun' => hle run' (List.mem_cons_of_mem run hrun')
      refine ih hle' ?_ hruns
      by_cases hslug : run.slug = slug
      · subst hslug
        exact covered_migrateRoleAssignments (hle run List.mem_cons_self rfl) hcovered (hrun rfl)
      · exact fun t => covered_migrateRoleAssignments_of_ne (Ne.symm hslug) (hcovered t)

/-- The part of a run for one assignment type that resolves everything and does not fail migrates
all that lies past the cursor. -/
theorem migrated_migrateType (hcovered : Covered run.resolver s run.slug db t)
    (hfull : ∀ item ∈ s.included t, (resolveSingleAssignment run.resolver item).isSome = true)
    (hdone : (migrateType s run t db).2 ≠ none) :
    ∀ item ∈ s.included t, Migrated run.resolver (migrateType s run t db).1 t item := by
  intro item hitem
  by_cases hid : item.id ≤ (run.faults t).start db run.slug t
  · exact (migrated_of_le_start hcovered item hitem hid).mono fun row hrow =>
      mem_migrateType_of_mem hrow
  · -- The item is on one of the pages, and all of them have been attempted.
    have hpast : Keyset.past (some ((run.faults t).start db run.slug t)) item.id = true := by
      simpa [Keyset.past] using hid
    have hmem : item ∈ (run.pages s t db).flatten :=
      (Keyset.mem_flatten_pages s.pageSize_pos (s.nodup_included t)
        (List.length_filter_le _ _)).mpr ⟨hitem, hpast⟩
    rw [Ne, migrateType, paginateAndCreate_eq_none_iff] at hdone
    refine migrated_of_isSome ⟨fun _ _ => id, fun _ _ => id, fun _ _ => id⟩ hmem
      (hfull item hitem) fun row hrow => ?_
    refine mem_paginateAndCreate.mpr (Or.inr ⟨rfl, ?_⟩)
    rwa [attempted_of_not_fails hdone]

/-- A run that resolves everything and completes migrates all that lies past its cursors. -/
theorem migrated_migrateRoleAssignments (hcovered : ∀ t, Covered run.resolver s run.slug db t)
    (hfull : ∀ t, ∀ item ∈ s.included t,
      (resolveSingleAssignment run.resolver item).isSome = true)
    (hdone : (migrateRoleAssignments s run db).raised = false) :
    ∀ t, ∀ item ∈ s.included t,
      Migrated run.resolver (migrateRoleAssignments s run db).db t item := by
  rcases migrateRoleAssignments_cases s run db with ⟨-, h⟩ | ⟨p, -, -, h⟩ | ⟨p, q, hp, hq, h⟩
  · simp [h] at hdone
  · simp [h] at hdone
  · -- Both parts have completed; the second one takes nothing away from the first.
    rw [h]
    intro t
    cases t with
    | user =>
        intro item hitem
        exact (migrated_migrateType (hcovered .user) (hfull .user) (by simp [hp]) item hitem).mono
          fun row hrow => mem_migrateType_of_mem hrow
    | team =>
        exact migrated_migrateType (covered_migrateType_of_ne (by simp) (hcovered .team))
          (hfull .team) (by simp [hq])

end Run

/-- Over any sequence of runs, each of which may fail at any point and may know only a part of what
the last one knows: if no run of the service persists the cursor past an assignment that it did not
resolve, a last run that resolves everything and completes leaves nothing out. -/
theorem completeAfter_of_persistsResolved (services : String → Service) (runs : List Run)
    (last : Run) (db : Db) (hfresh : ∀ t, db.cursor last.slug t = 0)
    (hle : ∀ run ∈ runs, run.slug = last.slug → run.resolver.Le last.resolver)
    (hsafe : AllPersistResolved services last.slug runs db) :
    CompleteAfter services runs last db := by
  intro hfull hdone
  -- Before the first run the cursors are zero, and no assignment has that id.
  have hstart : ∀ t, Covered last.resolver (services last.slug) last.slug db t := by
    intro t item hitem hid
    have hpos := (services last.slug).id_pos t item (List.mem_of_mem_filter hitem)
    rw [hfresh t] at hid
    omega
  exact migrated_migrateRoleAssignments (covered_afterRuns hle hstart hsafe) hfull hdone

/-- An automation controller in which a user is an admin of an inventory. -/
def inventoryController : Service where
  serviceType := "controller"
  pageSize := 200
  assignments
    | .user => [⟨1, "Inventory Admin", some "0b1c", none, some "7"⟩]
    | .team => []
  pageSize_pos := by decide
  nodup_ids t := by cases t <;> decide
  id_pos t := by cases t <;> decide

/-- The database before the first run. -/
def freshDb : Db where
  assignments _ := []
  cursor _ _ := 0

/-- A run on the controller, with the roles that the gateway knows at the time. -/
def controllerRun (role : String → Option RoleDefinition) (crash : Option (ℕ × Stage)) : Run where
  slug := "controller"
  resolver :=
    { role
      actor := fun id => if id = "0b1c" then some 5 else none
      object := fun _ => none }
  faults _ := ⟨false, fun _ => false, crash⟩

/-- The gateway knows the role. -/
def inventoryRoles (name : String) : Option RoleDefinition :=
  if name = "Inventory Admin" then some ⟨3, some 9⟩ else none

/-- A run that knows no role and fails before it persists the cursor does no harm. -/
theorem completeAfter_inventoryController :
    CompleteAfter (fun _ => inventoryController)
      [controllerRun (fun _ => none) (some (0, .objects))] (controllerRun inventoryRoles none)
      freshDb := by
  refine completeAfter_of_persistsResolved _ _ _ _ (fun _ => rfl) ?_ ⟨fun _ => ?_, trivial⟩
  · intro run hrun _
    obtain rfl := List.mem_singleton.mp hrun
    exact ⟨by simp [controllerRun], fun _ _ => id, fun _ _ => id⟩
  · intro t _ k _ hpersists
    -- Nothing is refused, since nothing resolves, and the run fails where it is said to.
    have hk := hpersists.2 0 .objects (by cases t <;> decide)
    simp at hk

/-- A run that does not know the role yet, and completes, loses the assignment. -/
theorem not_completeAfter_inventoryController :
    (controllerRun (fun _ => none) none).resolver.Le (controllerRun inventoryRoles none).resolver ∧
      ¬ CompleteAfter (fun _ => inventoryController)
        [controllerRun (fun _ => none) none] (controllerRun inventoryRoles none) freshDb := by
  refine ⟨⟨by simp [controllerRun], fun _ _ => id, fun _ _ => id⟩, fun h => ?_⟩
  have hfull : ∀ t, ∀ item ∈ inventoryController.included t,
      (resolveSingleAssignment (controllerRun inventoryRoles none).resolver
        item).isSome = true := by
    intro t
    cases t <;> decide
  obtain ⟨row, -, hrow⟩ := h hfull (by decide) .user
    ⟨1, "Inventory Admin", some "0b1c", none, some "7"⟩ (by decide)
  have hempty : (migrateRoleAssignments inventoryController (controllerRun inventoryRoles none)
      (afterRuns (fun _ => inventoryController) [controllerRun (fun _ => none) none]
        freshDb)).db.assignments .user = [] := by decide
  rw [hempty] at hrow
  exact List.not_mem_nil hrow

end AapGateway.Migration
