import AapGateway.Migration.RoleAssignments

/-!
# What a page of assignments creates

`_bulk_create_global_assignments` leaves out the pairs of actor and role definition that have a
global assignment before the call. The unique constraint does not bind global assignments, since
their object role is null, so a pair that is new and twice on the page is created twice. The set of
desired pairs, in which it is once, is only used for the query of the existing ones.

`_resolve_single_assignment` reads the scope off the item: it is for an object when the item has
one, and global otherwise. The role definition is found by its name, and its content type is not
compared with the scope, so a role for objects can be granted globally. The other way round the
database steps in: it takes no object role without a content type, and the page fails.

## Main definitions

* `Item.Known`: the gateway knows what an item refers to;
* `DuplicateFree`: global assignments are there once;
* `NoWidening`: the scope of what a page creates fits the role definitions.

## Main results

* `duplicateFree_iff`: the pages after which global assignments are there once;
* `noWidening_iff`: the pages that create only assignments of a fitting scope.
-/

namespace AapGateway.Migration

/-- The gateway knows what an item refers to: its role definition, its actor, and its object, if it
is for an object. -/
structure Item.Known (r : Resolver) (item : Item) (rd : RoleDefinition) (actor : ℕ)
    (objectId : Option String) : Prop where
  role : (truthy (some item.roleDefinition)).bind r.role = some rd
  actor : (truthy item.actorAnsibleId).bind r.actor = some actor
  object :
    match truthy item.objectAnsibleId with
    | some objectAnsibleId => ∃ o, r.object objectAnsibleId = some o ∧ objectId = some o
    | none => objectId = item.objectId

/-- The assignment of a role definition to an actor, for an object or globally. -/
def RoleDefinition.assignment (rd : RoleDefinition) (actor : ℕ) (objectId : Option String) :
    Assignment :=
  ⟨actor, rd.id, objectId.map fun o => ⟨rd.id, rd.contentTypeId, o⟩⟩

section Items

variable {r : Resolver} {item : Item} {row : Assignment}

/-- The items that are resolved are those that the gateway knows. -/
theorem resolveSingleAssignment_eq_some_iff :
    resolveSingleAssignment r item = some row ↔
      ∃ rd actor objectId, item.Known r rd actor objectId ∧ row = rd.assignment actor objectId := by
  constructor
  · intro h
    unfold resolveSingleAssignment at h
    obtain ⟨actorId, hactorId, h⟩ := Option.bind_eq_some_iff.mp h
    obtain ⟨roleName, hroleName, h⟩ := Option.bind_eq_some_iff.mp h
    obtain ⟨rd, hrd, h⟩ := Option.bind_eq_some_iff.mp h
    obtain ⟨actor, hactor, h⟩ := Option.bind_eq_some_iff.mp h
    have hrole : (truthy (some item.roleDefinition)).bind r.role = some rd :=
      Option.bind_eq_some_iff.mpr ⟨roleName, hroleName, hrd⟩
    have hactor' : (truthy item.actorAnsibleId).bind r.actor = some actor :=
      Option.bind_eq_some_iff.mpr ⟨actorId, hactorId, hactor⟩
    -- The branches of the object, in the order of the code.
    split at h
    · -- The object is named by its ansible id.
      rename_i objectAnsibleId hobject
      obtain ⟨o, ho, h⟩ := Option.bind_eq_some_iff.mp h
      refine ⟨rd, actor, some o, ⟨hrole, hactor', ?_⟩, (Option.some.inj h).symm⟩
      rw [hobject]
      exact ⟨o, ho, rfl⟩
    · -- The object has an id of the service, or the assignment is global.
      rename_i hobject
      split at h
      · rename_i o ho
        refine ⟨rd, actor, some o, ⟨hrole, hactor', ?_⟩, (Option.some.inj h).symm⟩
        rw [hobject]
        exact ho.symm
      · rename_i ho
        refine ⟨rd, actor, none, ⟨hrole, hactor', ?_⟩, (Option.some.inj h).symm⟩
        rw [hobject]
        exact ho.symm
  · rintro ⟨rd, actor, objectId, ⟨hrole, hactor, hobject⟩, rfl⟩
    obtain ⟨roleName, hroleName, hrd⟩ := Option.bind_eq_some_iff.mp hrole
    obtain ⟨actorId, hactorId, hactor⟩ := Option.bind_eq_some_iff.mp hactor
    unfold resolveSingleAssignment
    rw [hactorId, hroleName]
    simp only [Option.bind_eq_bind, Option.bind_some, hrd, hactor]
    cases hansible : truthy item.objectAnsibleId with
    | some objectAnsibleId =>
        rw [hansible] at hobject
        obtain ⟨o, ho, rfl⟩ := hobject
        simp only [ho]
        rfl
    | none =>
        rw [hansible] at hobject
        cases hobject
        cases item.objectId <;> rfl

/-- Whether an assignment is global. -/
theorem RoleDefinition.assignment_objectRole {rd : RoleDefinition} {actor : ℕ}
    {objectId : Option String} :
    (rd.assignment actor objectId).objectRole = none ↔ objectId = none :=
  Option.map_eq_none_iff

end Items

section Page

variable {r : Resolver} {t : AssignmentType} {page : List Item} {db : Db}

/-- The global assignments that a page creates. -/
def newGlobals (r : Resolver) (t : AssignmentType) (page : List Item) (db : Db) :
    List Assignment :=
  (globalAssignments r page).filter fun row => row ∉ db.assignments t

/-- A page creates its global assignments, and those for objects if the database takes their object
roles. -/
theorem mem_createdOnPage_iff {row : Assignment} :
    row ∈ createdOnPage r page ↔
      row ∈ globalAssignments r page ∨
        refused (objectAssignments r page) = false ∧ row ∈ objectAssignments r page := by
  unfold createdOnPage
  split
  · rename_i hrefused
    simp [hrefused]
  · rename_i hrefused
    rw [mem_resolved_iff]
    simp [hrefused]

/-- A page adds global assignments and then assignments for objects. -/
theorem assignments_bulkResolveAndCreatePage (r : Resolver) (t : AssignmentType)
    (page : List Item) (db : Db) :
    ∃ objects : List Assignment, (∀ row ∈ objects, row.objectRole ≠ none) ∧
      (bulkResolveAndCreatePage r t page db).1.assignments t =
        db.assignments t ++ newGlobals r t page db ++ objects := by
  by_cases hrefused : refused (objectAssignments r page) = true
  · refine ⟨[], by simp, ?_⟩
    simp [bulkResolveAndCreatePage_of_refused hrefused, bulkCreateGlobalAssignments, newGlobals,
      Db.insert]
  · refine ⟨((objectAssignments r page).filter fun row =>
      row ∉ (db.insert t (newGlobals r t page db)).assignments t).dedup, ?_, ?_⟩
    · intro row hrow
      have hobject := (List.mem_filter.mp (List.mem_dedup.mp hrow)).1
      exact of_decide_eq_true (List.mem_filter.mp hobject).2
    · rw [Bool.not_eq_true] at hrefused
      simp [bulkResolveAndCreatePage_of_not_refused hrefused, bulkCreateGlobalAssignments,
        newGlobals, Db.insert]

/-- How often a global assignment is there after a page. -/
theorem count_bulkResolveAndCreatePage {row : Assignment} (hglobal : row.objectRole = none) :
    ((bulkResolveAndCreatePage r t page db).1.assignments t).count row =
      (db.assignments t).count row + (newGlobals r t page db).count row := by
  obtain ⟨objects, hobjects, hrows⟩ := assignments_bulkResolveAndCreatePage r t page db
  -- What the page adds for objects is not global.
  have hnone : objects.count row = 0 :=
    List.count_eq_zero.mpr fun hrow => hobjects row hrow hglobal
  rw [hrows, List.count_append, List.count_append, hnone, add_zero]

/-- Adding nothing leaves the database. -/
theorem Db.insert_nil : db.insert t [] = db := by
  unfold Db.insert
  rw [List.append_nil, Function.update_eq_self]

/-- A page whose assignments are all there changes nothing. -/
theorem bulkResolveAndCreatePage_of_subset
    (h : ∀ row ∈ createdOnPage r page, row ∈ db.assignments t) :
    (bulkResolveAndCreatePage r t page db).1 = db := by
  have hglobals : newGlobals r t page db = [] := by
    refine List.filter_eq_nil_iff.mpr fun row hrow => ?_
    simpa using h row (mem_createdOnPage_iff.mpr (Or.inl hrow))
  have hinsert : (bulkCreateGlobalAssignments t (globalAssignments r page) db).1 = db := by
    show db.insert t (newGlobals r t page db) = db
    rw [hglobals, Db.insert_nil]
  by_cases hrefused : refused (objectAssignments r page) = true
  · rw [bulkResolveAndCreatePage_of_refused hrefused, hinsert]
  · rw [Bool.not_eq_true] at hrefused
    have hobjects :
        (objectAssignments r page).filter (fun row => row ∉ db.assignments t) = [] := by
      refine List.filter_eq_nil_iff.mpr fun row hrow => ?_
      simpa using h row (mem_createdOnPage_iff.mpr (Or.inr ⟨hrefused, hrow⟩))
    rw [bulkResolveAndCreatePage_of_not_refused hrefused]
    simp only [hinsert, hobjects, List.dedup_nil, Db.insert_nil]

/-- After a page its assignments are all there, so the same page changes nothing. -/
theorem bulkResolveAndCreatePage_again :
    (bulkResolveAndCreatePage r t page (bulkResolveAndCreatePage r t page db).1).1 =
      (bulkResolveAndCreatePage r t page db).1 :=
  bulkResolveAndCreatePage_of_subset fun _ hrow =>
    mem_bulkResolveAndCreatePage.mpr (Or.inr ⟨rfl, hrow⟩)

/-! ## Global assignments -/

/-- There is at most one global assignment for an actor and a role definition. -/
def GlobalOnce (t : AssignmentType) (db : Db) : Prop :=
  ∀ actor roleDefinition, (db.assignments t).count ⟨actor, roleDefinition, none⟩ ≤ 1

/-- After a page, global assignments are there once, those of the page among them, and the same page
again changes nothing. -/
structure DuplicateFree (r : Resolver) (t : AssignmentType) (page : List Item) (db : Db) :
    Prop where
  once : GlobalOnce t (bulkResolveAndCreatePage r t page db).1
  resolved : ∀ row ∈ globalAssignments r page,
    ((bulkResolveAndCreatePage r t page db).1.assignments t).count row = 1
  again : (bulkResolveAndCreatePage r t page (bulkResolveAndCreatePage r t page db).1).1 =
    (bulkResolveAndCreatePage r t page db).1

/-- No two items of a page are global and for one pair of actor and role definition, unless the pair
has its global assignment already. -/
def NewPairsOnce (r : Resolver) (t : AssignmentType) (page : List Item) (db : Db) : Prop :=
  page.Pairwise fun a b => ∀ rd rd' actor, a.Known r rd actor none → b.Known r rd' actor none →
    rd.id = rd'.id → rd.assignment actor none ∈ db.assignments t

/-- What a page creates globally has no repetition exactly when no new pair is twice on it. -/
theorem nodup_newGlobals_iff : (newGlobals r t page db).Nodup ↔ NewPairsOnce r t page db := by
  unfold newGlobals globalAssignments List.Nodup NewPairsOnce
  -- Both sides are about pairs of items of the page, the left one through what they resolve to.
  rw [List.pairwise_filter, List.pairwise_filter, List.pairwise_filterMap]
  refine List.Pairwise.iff fun a b => ?_
  simp only [decide_eq_true_iff]
  constructor
  · intro h rd rd' actor ha hb hid
    by_contra hnew
    have hsame : rd.assignment actor none = rd'.assignment actor none := by
      rw [RoleDefinition.assignment, hid]
      rfl
    refine h _ (resolveSingleAssignment_eq_some_iff.mpr ⟨rd, actor, none, ha, rfl⟩) _
      (resolveSingleAssignment_eq_some_iff.mpr ⟨rd', actor, none, hb, rfl⟩) rfl rfl hnew ?_ hsame
    rwa [← hsame]
  · intro h x hx y hy hxglobal hyglobal hxnew _ hxy
    obtain ⟨rd, actor, objectId, ha, rfl⟩ := resolveSingleAssignment_eq_some_iff.mp hx
    obtain ⟨rd', actor', objectId', hb, rfl⟩ := resolveSingleAssignment_eq_some_iff.mp hy
    rw [RoleDefinition.assignment_objectRole] at hxglobal hyglobal
    subst hxglobal hyglobal
    obtain rfl : actor = actor' := congrArg Assignment.actor hxy
    exact hxnew (h rd rd' actor ha hb (congrArg Assignment.roleDefinition hxy))

/-- After a page global assignments are there once exactly when no new pair is twice on it. -/
theorem duplicateFree_iff (honce : GlobalOnce t db) :
    DuplicateFree r t page db ↔ NewPairsOnce r t page db := by
  rw [← nodup_newGlobals_iff, List.nodup_iff_count_le_one]
  constructor
  · intro h row
    by_cases hrow : row ∈ newGlobals r t page db
    · -- A row that is created twice is there twice afterwards.
      obtain ⟨actor, roleDefinition, objectRole⟩ := row
      have hglobal := (List.mem_filter.mp (List.mem_filter.mp hrow).1).2
      obtain rfl : objectRole = none := of_decide_eq_true hglobal
      have hcount := h.once actor roleDefinition
      rw [count_bulkResolveAndCreatePage rfl] at hcount
      omega
    · rw [List.count_eq_zero.mpr hrow]
      exact Nat.zero_le 1
  -- A row that stands once before is skipped, and the others are created as often as they are new.
  · intro h
    have hafter : GlobalOnce t (bulkResolveAndCreatePage r t page db).1 := by
      intro actor roleDefinition
      rw [count_bulkResolveAndCreatePage rfl]
      by_cases hthere : (⟨actor, roleDefinition, none⟩ : Assignment) ∈ db.assignments t
      · -- A pair that is there is not created.
        have hnone : (newGlobals r t page db).count ⟨actor, roleDefinition, none⟩ = 0 := by
          refine List.count_eq_zero.mpr fun hnew => ?_
          have hnot := (List.mem_filter.mp hnew).2
          exact absurd hthere (of_decide_eq_true hnot)
        rw [hnone, add_zero]
        exact honce actor roleDefinition
      · rw [List.count_eq_zero.mpr hthere, zero_add]
        exact h _
    -- The second run over the page finds all of its pairs.
    refine ⟨hafter, ?_, bulkResolveAndCreatePage_again⟩
    intro row hrow
    have hmem : row ∈ (bulkResolveAndCreatePage r t page db).1.assignments t :=
      mem_bulkResolveAndCreatePage.mpr (Or.inr ⟨rfl, mem_createdOnPage_iff.mpr (Or.inl hrow)⟩)
    obtain ⟨actor, roleDefinition, objectRole⟩ := row
    obtain rfl : objectRole = none := of_decide_eq_true (List.mem_filter.mp hrow).2
    exact Nat.le_antisymm (hafter actor roleDefinition) (List.count_pos_iff.mpr hmem)

/-! ## Scopes -/

/-- What a page creates has the scope of its role definition: it is global exactly for a role
definition without a content type. An item of another scope creates nothing. -/
structure NoWidening (r : Resolver) (t : AssignmentType) (page : List Item) (db : Db) : Prop where
  fits : ∀ row ∈ (bulkResolveAndCreatePage r t page db).1.assignments t, row ∉ db.assignments t →
    ∃ name rd, r.role name = some rd ∧ rd.id = row.roleDefinition ∧
      (row.objectRole = none ↔ rd.contentTypeId = none)
  skips : ∀ item ∈ page, ∀ rd actor objectId, item.Known r rd actor objectId →
    ¬(objectId = none ↔ rd.contentTypeId = none) →
      rd.assignment actor objectId ∈ (bulkResolveAndCreatePage r t page db).1.assignments t →
        rd.assignment actor objectId ∈ db.assignments t

/-- Every global item of a page that the gateway knows and that is not assigned yet has a role
definition without a content type. -/
def GlobalsFit (r : Resolver) (t : AssignmentType) (page : List Item) (db : Db) : Prop :=
  ∀ item ∈ page, ∀ rd actor, item.Known r rd actor none →
    rd.assignment actor none ∉ db.assignments t → rd.contentTypeId = none

/-- An item that the gateway knows resolves to its assignment. -/
theorem mem_resolved_of_known {item : Item} {rd : RoleDefinition} {actor : ℕ}
    {objectId : Option String} (hitem : item ∈ page) (hknown : item.Known r rd actor objectId) :
    rd.assignment actor objectId ∈ page.filterMap (resolveSingleAssignment r) :=
  List.mem_filterMap.mpr ⟨item, hitem,
    resolveSingleAssignment_eq_some_iff.mpr ⟨rd, actor, objectId, hknown, rfl⟩⟩

/-- What is created for an object has a role definition with a content type. -/
theorem contentTypeId_ne_none_of_created {rd : RoleDefinition} {actor : ℕ} {o : String}
    (hcreated : rd.assignment actor (some o) ∈ createdOnPage r page) : rd.contentTypeId ≠ none := by
  intro hnone
  -- The assignment is not global, so the database has taken the object roles of the page.
  rcases mem_createdOnPage_iff.mp hcreated with hglobal | ⟨hrefused, hobject⟩
  · have hrole := of_decide_eq_true (List.mem_filter.mp hglobal).2
    cases RoleDefinition.assignment_objectRole.mp hrole
  · have htaken := List.any_eq_false.mp hrefused _ hobject
    simp [RoleDefinition.assignment, hnone] at htaken

/-- A page creates only assignments of a fitting scope exactly when its global items fit. -/
theorem noWidening_iff (r : Resolver) (t : AssignmentType) (page : List Item) (db : Db) :
    NoWidening r t page db ↔ GlobalsFit r t page db := by
  constructor
  · -- A global item that the gateway knows is created, whatever its role definition is for.
    intro h item hitem rd actor hknown hnew
    by_contra hscope
    have hglobal : rd.assignment actor none ∈ globalAssignments r page :=
      List.mem_filter.mpr ⟨mem_resolved_of_known hitem hknown, rfl⟩
    refine hnew (h.skips item hitem rd actor none hknown (by simpa using hscope) ?_)
    exact mem_bulkResolveAndCreatePage.mpr
      (Or.inr ⟨rfl, mem_createdOnPage_iff.mpr (Or.inl hglobal)⟩)
  · intro h
    -- The scope of whatever the page creates fits: the database sees to the items for objects.
    have hfits : ∀ item ∈ page, ∀ rd actor objectId, item.Known r rd actor objectId →
        rd.assignment actor objectId ∈ createdOnPage r page →
          rd.assignment actor objectId ∉ db.assignments t →
            (objectId = none ↔ rd.contentTypeId = none) := by
      intro item hitem rd actor objectId hknown hcreated hnew
      cases objectId with
      | none => exact iff_of_true rfl (h item hitem rd actor hknown hnew)
      | some o =>
          exact iff_of_false (by simp) (contentTypeId_ne_none_of_created hcreated)
    constructor
    · intro row hrow hnew
      rcases mem_bulkResolveAndCreatePage.mp hrow with hold | ⟨-, hrow⟩
      · exact absurd hold hnew
      · -- A new row comes from an item.
        have hresolved : row ∈ page.filterMap (resolveSingleAssignment r) :=
          mem_resolved_iff.mpr ((mem_createdOnPage_iff.mp hrow).imp_right And.right)
        obtain ⟨item, hitem, hitemrow⟩ := List.mem_filterMap.mp hresolved
        obtain ⟨rd, actor, objectId, hknown, rfl⟩ :=
          resolveSingleAssignment_eq_some_iff.mp hitemrow
        obtain ⟨name, -, hname⟩ := Option.bind_eq_some_iff.mp hknown.role
        refine ⟨name, rd, hname, rfl, ?_⟩
        rw [RoleDefinition.assignment_objectRole]
        exact hfits item hitem rd actor objectId hknown hrow hnew
    · intro item hitem rd actor objectId hknown hscope hrow
      rcases mem_bulkResolveAndCreatePage.mp hrow with hold | ⟨-, hcreated⟩
      · exact hold
      · by_contra hnew
        exact hscope (hfits item hitem rd actor objectId hknown hcreated hnew)

end Page

/-- A gateway that knows the role definition `System Auditor`, without a content type, the role
definition `Inventory Admin` for the content type 7, and two users. -/
def twoRoles : Resolver where
  role
    | "System Auditor" => some ⟨1, none⟩
    | "Inventory Admin" => some ⟨2, some 7⟩
    | _ => none
  actor
    | "alice" => some 10
    | "bob" => some 11
    | _ => none
  object _ := none

/-- A global assignment of a service. -/
def globalItem (id : ℕ) (roleDefinition user : String) : Item :=
  ⟨id, roleDefinition, some user, none, none⟩

/-- A database without assignments. -/
def noAssignments : Db := ⟨fun _ => [], fun _ _ => 0⟩

/-- There is no global assignment yet. -/
theorem globalOnce_noAssignments : GlobalOnce .user noAssignments :=
  fun _ _ => Nat.zero_le 1

/-- A page with one role definition for two users. -/
theorem duplicateFree_twoUsers :
    DuplicateFree twoRoles .user
      [globalItem 1 "System Auditor" "alice", globalItem 2 "System Auditor" "bob"]
      noAssignments := by
  refine (duplicateFree_iff globalOnce_noAssignments).mpr ?_
  refine List.pairwise_pair.mpr fun rd rd' actor ha hb _ => ?_
  have hactors : some actor = some 10 ∧ some actor = some 11 := ⟨ha.actor.symm, hb.actor.symm⟩
  exact absurd (hactors.1.symm.trans hactors.2) (by decide)

/-- A service that lists the same global assignment twice: its database does not enforce that the
pair is unique either. Both items are created. -/
theorem not_duplicateFree_listedTwice :
    GlobalOnce .user noAssignments ∧
      ¬DuplicateFree twoRoles .user
        [globalItem 1 "System Auditor" "alice", globalItem 2 "System Auditor" "alice"]
        noAssignments := by
  refine ⟨globalOnce_noAssignments, fun h => ?_⟩
  exact absurd (h.once 10 1) (by decide)

/-- A service where `Inventory Admin` is a system role: the user gets the role of the gateway, which
is for inventories, globally. -/
theorem not_noWidening_sameName :
    ¬NoWidening twoRoles .user [globalItem 1 "Inventory Admin" "alice"] noAssignments := by
  intro h
  have hknown : (globalItem 1 "Inventory Admin" "alice").Known twoRoles ⟨2, some 7⟩ 10 none :=
    ⟨rfl, rfl, rfl⟩
  have hcreated := h.skips _ (List.mem_singleton_self _) ⟨2, some 7⟩ 10 none hknown (by decide)
    (by decide)
  exact absurd hcreated (by decide)

end AapGateway.Migration
