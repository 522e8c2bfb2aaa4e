import Mathlib
import AapGateway.Foundations.Canonical
import AapGateway.Foundations.JsonDict
import AapGateway.Foundations.Text

/-!
# Role claims of OpenID Connect

The `roles` scope adds to the answer of the user info endpoint in which organizations and teams the
user has a role. `_build_role_claims` collects the roles from the rows of `RoleUserAssignment`,
whose `object_id` is a text, and joins them with the organizations and teams, whose primary keys
are numbers.

The rows come in an unspecified order. Deletions leave rows behind, and there are rows of other
roles.

## Main definitions

* `roleClaims`: the claims of one kind of objects;
* `buildRoleClaims`: both lists of claims;
* `userinfoRoles`: what is added to the user info.

## Main results

* `hasCanonicalClaims_iff`: the claims are sorted, there is one for each object in which the user
  has a role, with its sorted roles, and the order of the rows does not matter, exactly if the
  object ids in the user's rows are numbers.
-/

namespace AapGateway.Oidc

/-- A row of `RoleDefinition`. -/
structure RoleDefinition where
  id : ℕ
  name : String
  deriving DecidableEq, Repr

/-- A row of `RoleUserAssignment`. A role in the whole system has no `object_id`. -/
structure RoleUserAssignment where
  user : ℕ
  objectId : Option String
  roleDefinitionId : ℕ
  deriving DecidableEq, Repr

/-- An organization. -/
structure Organization where
  pk : ℕ
  name : String
  deriving DecidableEq, Repr

/-- A team with its organization, as `select_related` loads it. -/
structure Team where
  pk : ℕ
  name : String
  organization : Organization
  deriving DecidableEq, Repr

/-- The tables beside the assignments, with their unique columns. -/
structure Directory where
  roleDefinitions : List RoleDefinition
  organizations : List Organization
  teams : List Team
  nodup_roleDefinition_id : (roleDefinitions.map RoleDefinition.id).Nodup
  nodup_roleDefinition_name : (roleDefinitions.map RoleDefinition.name).Nodup
  nodup_organization_pk : (organizations.map Organization.pk).Nodup
  nodup_organization_name : (organizations.map Organization.name).Nodup
  nodup_team_pk : (teams.map Team.pk).Nodup
  /-- The name of a team is unique in its organization. -/
  nodup_team_name : (teams.map fun t => (t.organization.pk, t.name)).Nodup
  organization_mem : ∀ t ∈ teams, t.organization ∈ organizations
  /-- Primary keys are of 64 bits. -/
  organization_pk_lt : ∀ o ∈ organizations, o.pk < 2 ^ 63
  team_pk_lt : ∀ t ∈ teams, t.pk < 2 ^ 63

/-- The user of a request. -/
structure User where
  pk : ℕ
  isAuthenticated : Bool
  isSuperuser : Bool
  isPlatformAuditor : Bool

/-- An item of `aap_organizations`. -/
structure OrganizationClaim where
  name : String
  roles : List String
  deriving DecidableEq, Repr

/-- An item of `aap_teams`. -/
structure TeamClaim where
  name : String
  organization : String
  roles : List String
  deriving DecidableEq, Repr

/-- The names of the role definitions. -/
def expectedNames : List String :=
  ["Organization Admin", "Organization Member", "Team Admin", "Team Member"]

/-- `{rd.name: rd for rd in RoleDefinition.objects.filter(name__in=expected_names)}`. -/
def Directory.roleDefs (dir : Directory) : Dict RoleDefinition :=
  Dict.ofList ((dir.roleDefinitions.filter fun rd => rd.name ∈ expectedNames).map fun rd =>
    (rd.name, rd))

section Blocks

variable {α γ κ : Type} [LinearOrder κ]

/-- The object ids of the rows of the user with one of the two roles, and the roles. A row without
an object id is left out: no object has it. -/
def rolePairs (user adminId memberId : ℕ) (rows : List RoleUserAssignment) :
    List (String × String) :=
  (rows.filter fun row => row.user = user ∧ row.roleDefinitionId ∈ [adminId, memberId]).filterMap
    fun row => row.objectId.map fun objId =>
      (objId, if row.roleDefinitionId = adminId then "admin" else "member")

/-- The roles of the user by the ids of the objects. -/
def rolesByObject (user adminId memberId : ℕ) (rows : List RoleUserAssignment) :
    Dict (List String) :=
  Dict.collect Prod.fst Prod.snd (rolePairs user adminId memberId rows)

/-- `objects.filter(pk__in=ids)`, by `str(pk)`. It is `none` when an id is no number. -/
def objectsByPk (pk : α → ℕ) (objects : List α) (ids : List String) : Option (Dict α) :=
  (ids.mapM pyInt).map fun pks =>
    Dict.ofList ((objects.filter fun o => (pk o : ℤ) ∈ pks).map fun o => (toString (pk o), o))

/-- The claims about one kind of objects: the roles joined with the objects, and sorted. Roles in
objects that do not exist are dropped. -/
def roleClaims (pk : α → ℕ) (claim : α → List String → γ) (key : γ → κ) (objects : List α)
    (roles : Dict (List String)) : Option (List γ) :=
  (objectsByPk pk objects (roles.items.map Prod.fst)).map fun byPk =>
    Canonical.sorted key (roles.items.filterMap fun (objId, roles) =>
      (byPk.get? objId).map fun o => claim o (Canonical.sorted id roles))

end Blocks

/-- The claims about organizations. -/
def Directory.orgClaims (dir : Directory) (user adminId memberId : ℕ)
    (rows : List RoleUserAssignment) : Option (List OrganizationClaim) :=
  roleClaims Organization.pk (fun o roles => ⟨o.name, roles⟩) OrganizationClaim.name
    dir.organizations (rolesByObject user adminId memberId rows)

/-- The claims about teams. They are sorted by the organization, and then by the name. -/
def Directory.teamClaims (dir : Directory) (user adminId memberId : ℕ)
    (rows : List RoleUserAssignment) : Option (List TeamClaim) :=
  roleClaims Team.pk (fun t roles => ⟨t.name, t.organization.name, roles⟩)
    (fun c => toLex (c.organization, c.name)) dir.teams
    (rolesByObject user adminId memberId rows)

/-- `_build_role_claims`. It is `none` when the conversion of an `object_id` raises. -/
def buildRoleClaims (dir : Directory) (user : ℕ) (rows : List RoleUserAssignment) :
    Option (List OrganizationClaim × List TeamClaim) :=
  match dir.roleDefs.get? "Organization Admin", dir.roleDefs.get? "Organization Member",
    dir.roleDefs.get? "Team Admin", dir.roleDefs.get? "Team Member" with
  | some orgAdmin, some orgMember, some teamAdmin, some teamMember => do
    let orgClaims ← dir.orgClaims user orgAdmin.id orgMember.id rows
    let teamClaims ← dir.teamClaims user teamAdmin.id teamMember.id rows
    return (orgClaims, teamClaims)
  -- `missing = set(expected_names) - role_defs.keys()`
  | _, _, _, _ => some ([], [])

/-- The role claims in the user info. -/
structure RoleInfo where
  aapOrganizations : List OrganizationClaim
  aapTeams : List TeamClaim
  aapSystemRole : String
  deriving DecidableEq, Repr

/-- `_get_system_role`. -/
def getSystemRole (user : User) : String :=
  if user.isSuperuser then "system_administrator"
  else if user.isPlatformAuditor then "system_auditor"
  else "normal_user"

/-- What `get_userinfo_claims` adds to the claims of the base class. -/
def userinfoRoles (dir : Directory) (user : Option User) (scopes : List String)
    (rows : List RoleUserAssignment) : Option RoleInfo :=
  match user with
  | none => none
  | some user =>
    if user.isAuthenticated && scopes.contains "roles" then
      let claims := (buildRoleClaims dir user.pk rows).getD ([], [])
      some ⟨claims.1, claims.2, getSystemRole user⟩
    else none

section Specs

variable {α γ κ : Type} [LinearOrder κ] {user adminId memberId : ℕ}
  {rows rows' : List RoleUserAssignment}

/-- The user has the role with the definition in the object. -/
def AssignedId (user : ℕ) (rows : List RoleUserAssignment) (roleDefinitionId pk : ℕ) : Prop :=
  ⟨user, some (toString pk), roleDefinitionId⟩ ∈ rows

/-- The list is the sorted set of the roles, given which of them the user has. -/
structure IsRoleSet (admin member : Prop) (roles : List String) : Prop where
  sorted : roles.Pairwise (· < ·)
  mem_iff : ∀ role, role ∈ roles ↔ role = "admin" ∧ admin ∨ role = "member" ∧ member

/-- There is one sorted set of the roles. -/
theorem IsRoleSet.unique {admin member : Prop} {roles roles' : List String}
    (h : IsRoleSet admin member roles) (h' : IsRoleSet admin member roles') : roles = roles' :=
  @Canonical.eq_of_mem_iff _ _ _ id _ _ h.sorted h'.sorted fun role => by
    rw [h.mem_iff, h'.mem_iff]

/-- The pairs that are collected. -/
theorem mem_rolePairs {objId role : String} (hne : adminId ≠ memberId) :
    (objId, role) ∈ rolePairs user adminId memberId rows ↔
      role = "admin" ∧ ⟨user, some objId, adminId⟩ ∈ rows ∨
        role = "member" ∧ ⟨user, some objId, memberId⟩ ∈ rows := by
  simp only [rolePairs, List.mem_filterMap, List.mem_filter, decide_eq_true_eq,
    List.mem_cons, List.not_mem_nil, or_false, Option.map_eq_some_iff, Prod.mk.injEq]
  constructor
  · rintro ⟨⟨_, objectId, rd⟩, ⟨hrow, rfl, hrd⟩, _, rfl, rfl, rfl⟩
    rcases hrd with rfl | rfl
    · exact Or.inl ⟨if_pos rfl, hrow⟩
    · exact Or.inr ⟨if_neg hne.symm, hrow⟩
  · rintro (⟨rfl, hrow⟩ | ⟨rfl, hrow⟩)
    · exact ⟨_, ⟨hrow, rfl, Or.inl rfl⟩, objId, rfl, rfl, if_pos rfl⟩
    · exact ⟨_, ⟨hrow, rfl, Or.inr rfl⟩, objId, rfl, rfl, if_neg hne.symm⟩

/-- The roles that are collected for an object, when they are sorted. -/
theorem isRoleSet_of_mem_items (hne : adminId ≠ memberId) {pk : ℕ} {values : List String}
    (h : (toString pk, values) ∈ (rolesByObject user adminId memberId rows).items) :
    values ≠ [] ∧ IsRoleSet (AssignedId user rows adminId pk) (AssignedId user rows memberId pk)
      (Canonical.sorted id values) := by
  obtain ⟨hnil, hnodup, hmem⟩ := Dict.mem_items_collect h
  refine ⟨hnil, ?_, fun role => ?_⟩
  · exact Canonical.pairwise_lt_sorted (by simpa using hnodup)
  · rw [Canonical.mem_sorted, hmem]
    constructor
    · rintro ⟨⟨objId, role'⟩, hpair, rfl, rfl⟩
      exact (mem_rolePairs hne).mp hpair
    · intro hrole
      exact ⟨_, (mem_rolePairs hne).mpr hrole, rfl, rfl⟩

/-- The objects with the ids. -/
theorem get?_objectsByPk {pk : α → ℕ} {objects : List α} (hpk : (objects.map pk).Nodup)
    (hlt : ∀ o ∈ objects, pk o < 2 ^ 63) {ids : List String} {byPk : Dict α}
    (h : objectsByPk pk objects ids = some byPk) {id : String} (hid : id ∈ ids) {o : α} :
    byPk.get? id = some o ↔ o ∈ objects ∧ toString (pk o) = id := by
  obtain ⟨pks, hpks, rfl⟩ := Option.map_eq_some_iff.mp h
  have hnodup : (((objects.filter fun o => (pk o : ℤ) ∈ pks).map fun o =>
      (toString (pk o), o)).map Prod.fst).Nodup := by
    have hkept : ((objects.filter fun o => (pk o : ℤ) ∈ pks).map pk).Nodup :=
      hpk.sublist (List.filter_sublist.map pk)
    have hinj : Function.Injective Nat.repr := fun _ _ h => Nat.repr_injective h
    have htexts := hkept.map hinj
    rw [List.map_map] at htexts ⊢
    exact htexts
  rw [Dict.get?_eq_some, Dict.items_ofList hnodup, List.mem_map]
  constructor
  · rintro ⟨o', ho', heq⟩
    obtain ⟨rfl, rfl⟩ := Prod.mk.inj heq
    exact ⟨(List.mem_filter.mp ho').1, rfl⟩
  · rintro ⟨ho, rfl⟩
    refine ⟨o, List.mem_filter.mpr ⟨ho, ?_⟩, rfl⟩
    -- The id of the object is among those that were converted.
    obtain ⟨n, hn, hread⟩ := (List.mapM_eq_some_iff.mp hpks).exists_of_mem_left hid
    rw [pyInt_key (hlt o ho)] at hread
    exact decide_eq_true (Option.some.inj hread ▸ hn)

variable {pk : α → ℕ} {claim : α → List String → γ} {key : γ → κ} {objects : List α}
  {claims : List γ}

/-- An item of the joined lists. -/
theorem mem_roleClaims (hne : adminId ≠ memberId) (hpk : (objects.map pk).Nodup)
    (hlt : ∀ o ∈ objects, pk o < 2 ^ 63)
    (h : roleClaims pk claim key objects (rolesByObject user adminId memberId rows) = some claims)
    (c : γ) :
    c ∈ claims ↔ ∃ o ∈ objects, ∃ roles, roles ≠ [] ∧
      IsRoleSet (AssignedId user rows adminId (pk o)) (AssignedId user rows memberId (pk o)) roles ∧
      c = claim o roles := by
  obtain ⟨byPk, hbyPk, rfl⟩ := Option.map_eq_some_iff.mp h
  simp only [Canonical.mem_sorted, List.mem_filterMap, Option.map_eq_some_iff]
  constructor
  · rintro ⟨⟨objId, values⟩, hitem, o, hget, rfl⟩
    have hid := List.mem_map_of_mem (f := Prod.fst) hitem
    obtain ⟨ho, rfl⟩ := (get?_objectsByPk hpk hlt hbyPk hid).mp hget
    obtain ⟨hnil, hroles⟩ := isRoleSet_of_mem_items hne hitem
    refine ⟨o, ho, _, ?_, hroles, rfl⟩
    obtain ⟨role, hrole⟩ := List.exists_mem_of_ne_nil _ hnil
    exact List.ne_nil_of_mem (Canonical.mem_sorted.mpr hrole)
  · rintro ⟨o, ho, roles, hnil, hroles, rfl⟩
    -- A role of the user in the object put its id into the dictionary.
    obtain ⟨role, hrole⟩ := List.exists_mem_of_ne_nil _ hnil
    have hpair : (toString (pk o), role) ∈ rolePairs user adminId memberId rows :=
      (mem_rolePairs hne).mpr ((hroles.mem_iff role).mp hrole)
    obtain ⟨values, hitem⟩ := Dict.exists_mem_items_collect Prod.snd hpair
    have hid := List.mem_map_of_mem (f := Prod.fst) hitem
    refine ⟨⟨toString (pk o), values⟩, hitem, o,
      (get?_objectsByPk hpk hlt hbyPk hid).mpr ⟨ho, rfl⟩, ?_⟩
    rw [(isRoleSet_of_mem_items hne hitem).2.unique hroles]

/-- The joined lists are in strict order when the objects have different keys. -/
theorem pairwise_roleClaims (hpk : (objects.map pk).Nodup)
    (hlt : ∀ o ∈ objects, pk o < 2 ^ 63)
    (hkey : ∀ o ∈ objects, ∀ o' ∈ objects, ∀ roles roles',
      key (claim o roles) = key (claim o' roles') → o = o')
    (h : roleClaims pk claim key objects (rolesByObject user adminId memberId rows) =
      some claims) :
    claims.Pairwise fun c d => key c < key d := by
  obtain ⟨byPk, hbyPk, rfl⟩ := Option.map_eq_some_iff.mp h
  apply Canonical.pairwise_lt_sorted
  have hids := (rolesByObject user adminId memberId rows).nodup
  rw [List.Nodup, List.pairwise_map] at hids ⊢
  have hitems : (rolesByObject user adminId memberId rows).items.Pairwise fun x y =>
      x ∈ (rolesByObject user adminId memberId rows).items ∧
        y ∈ (rolesByObject user adminId memberId rows).items ∧ x.1 ≠ y.1 :=
    hids.imp_of_mem fun hx hy hne => ⟨hx, hy, hne⟩
  -- Claims with one key are about one object, and so they come from one item.
  refine List.Pairwise.filterMap _ ?_ hitems
  rintro ⟨objId, values⟩ ⟨objId', values'⟩ ⟨hitem, hitem', hne⟩ c hc d hd heq
  obtain ⟨o, hget, rfl⟩ := Option.map_eq_some_iff.mp hc
  obtain ⟨o', hget', rfl⟩ := Option.map_eq_some_iff.mp hd
  have hid := List.mem_map_of_mem (f := Prod.fst) hitem
  have hid' := List.mem_map_of_mem (f := Prod.fst) hitem'
  obtain ⟨ho, hobj⟩ := (get?_objectsByPk hpk hlt hbyPk hid).mp hget
  obtain ⟨ho', hobj'⟩ := (get?_objectsByPk hpk hlt hbyPk hid').mp hget'
  rw [hkey o ho o' ho' _ _ heq] at hobj
  exact hne (hobj.symm.trans hobj')

/-- The claims can be built exactly if every id is a number. -/
theorem isSome_roleClaims_iff (hne : adminId ≠ memberId) :
    (roleClaims pk claim key objects (rolesByObject user adminId memberId rows)).isSome = true ↔
      ∀ objId, ⟨user, some objId, adminId⟩ ∈ rows ∨ ⟨user, some objId, memberId⟩ ∈ rows →
        (pyInt objId).isSome = true := by
  rw [roleClaims, Option.isSome_map, objectsByPk, Option.isSome_map, List.isSome_mapM_iff]
  constructor
  · intro h objId hrow
    obtain ⟨role, hpair⟩ : ∃ role, (objId, role) ∈ rolePairs user adminId memberId rows := by
      rcases hrow with hrow | hrow
      · exact ⟨"admin", (mem_rolePairs hne).mpr (Or.inl ⟨rfl, hrow⟩)⟩
      · exact ⟨"member", (mem_rolePairs hne).mpr (Or.inr ⟨rfl, hrow⟩)⟩
    obtain ⟨values, hitem⟩ := Dict.exists_mem_items_collect Prod.snd hpair
    exact h objId (List.mem_map_of_mem (f := Prod.fst) hitem)
  · rintro h objId hid
    obtain ⟨⟨_, values⟩, hitem, rfl⟩ := List.mem_map.mp hid
    obtain ⟨hnil, -, hmem⟩ := Dict.mem_items_collect hitem
    obtain ⟨role, hrole⟩ := List.exists_mem_of_ne_nil _ hnil
    obtain ⟨⟨objId, role'⟩, hpair, rfl, rfl⟩ := (hmem role).mp hrole
    rcases (mem_rolePairs hne).mp hpair with ⟨-, hrow⟩ | ⟨-, hrow⟩
    · exact h objId (Or.inl hrow)
    · exact h objId (Or.inr hrow)

/-- The claims do not depend on the order of the rows. -/
theorem roleClaims_perm (hne : adminId ≠ memberId) (hpk : (objects.map pk).Nodup)
    (hlt : ∀ o ∈ objects, pk o < 2 ^ 63)
    (hkey : ∀ o ∈ objects, ∀ o' ∈ objects, ∀ roles roles',
      key (claim o roles) = key (claim o' roles') → o = o')
    (hrows : rows'.Perm rows) :
    roleClaims pk claim key objects (rolesByObject user adminId memberId rows') =
      roleClaims pk claim key objects (rolesByObject user adminId memberId rows) := by
  have hassigned : ∀ rd pk, AssignedId user rows' rd pk ↔ AssignedId user rows rd pk :=
    fun rd pk => hrows.mem_iff
  have hsome : (roleClaims pk claim key objects
        (rolesByObject user adminId memberId rows')).isSome = true ↔
      (roleClaims pk claim key objects
        (rolesByObject user adminId memberId rows)).isSome = true := by
    simp only [isSome_roleClaims_iff hne, hrows.mem_iff]
  cases h : roleClaims pk claim key objects (rolesByObject user adminId memberId rows) with
  | none => simpa [h] using hsome
  | some claims =>
      rw [h] at hsome
      obtain ⟨claims', h'⟩ := Option.isSome_iff_exists.mp (hsome.mpr rfl)
      rw [h', Option.some_inj]
      refine Canonical.eq_of_mem_iff (pairwise_roleClaims hpk hlt hkey h')
        (pairwise_roleClaims hpk hlt hkey h) fun c => ?_
      rw [mem_roleClaims hne hpk hlt h', mem_roleClaims hne hpk hlt h]
      simp only [hassigned]

end Specs

section Canonical

variable {dir : Directory} {user : ℕ} {rows : List RoleUserAssignment}

/-- The user has the role with the name in the object. -/
def Directory.Assigned (dir : Directory) (user : ℕ) (rows : List RoleUserAssignment)
    (name : String) (pk : ℕ) : Prop :=
  ∃ rd ∈ dir.roleDefinitions, rd.name = name ∧
    ⟨user, some (toString pk), rd.id⟩ ∈ rows

/-- The object ids in the rows of the user for the four roles are numbers. -/
def Directory.HasNumericIds (dir : Directory) (user : ℕ) (rows : List RoleUserAssignment) : Prop :=
  ∀ rd ∈ dir.roleDefinitions, rd.name ∈ expectedNames → ∀ objId,
    ⟨user, some objId, rd.id⟩ ∈ rows → (pyInt objId).isSome = true

/-- The claims of the user are the same for every order of the rows. Each list is in strict order,
and it has one claim for each object in which the user has a role, with the sorted set of the
roles. -/
def Directory.HasCanonicalClaims (dir : Directory) (user : ℕ) (rows : List RoleUserAssignment) :
    Prop :=
  (∀ rows', rows'.Perm rows → buildRoleClaims dir user rows' = buildRoleClaims dir user rows) ∧
  ∃ orgClaims teamClaims, buildRoleClaims dir user rows = some (orgClaims, teamClaims) ∧
    (orgClaims.Pairwise fun c d => c.name < d.name) ∧
    (∀ c, c ∈ orgClaims ↔ ∃ o ∈ dir.organizations, c.name = o.name ∧ c.roles ≠ [] ∧
      IsRoleSet (dir.Assigned user rows "Organization Admin" o.pk)
        (dir.Assigned user rows "Organization Member" o.pk) c.roles) ∧
    (teamClaims.Pairwise fun c d =>
      toLex (c.organization, c.name) < toLex (d.organization, d.name)) ∧
    (∀ c, c ∈ teamClaims ↔ ∃ t ∈ dir.teams, c.name = t.name ∧
      c.organization = t.organization.name ∧ c.roles ≠ [] ∧
      IsRoleSet (dir.Assigned user rows "Team Admin" t.pk)
        (dir.Assigned user rows "Team Member" t.pk) c.roles)

/-- The definition that is looked up for the name of a role. -/
structure Directory.IsRole (dir : Directory) (name : String) (rd : RoleDefinition) : Prop where
  mem : rd ∈ dir.roleDefinitions
  name_eq : rd.name = name
  get?_eq : dir.roleDefs.get? name = some rd

/-- A role definition with one of the names is the one that is looked up. -/
theorem isRole_of_mem {rd : RoleDefinition} (hrd : rd ∈ dir.roleDefinitions)
    (hname : rd.name ∈ expectedNames) : dir.IsRole rd.name rd := by
  refine ⟨hrd, rfl, ?_⟩
  have hnodup : (((dir.roleDefinitions.filter fun rd => rd.name ∈ expectedNames).map fun rd =>
      (rd.name, rd)).map Prod.fst).Nodup := by
    rw [List.map_map]
    exact dir.nodup_roleDefinition_name.sublist (List.filter_sublist.map _)
  rw [Dict.get?_eq_some, Directory.roleDefs, Dict.items_ofList hnodup]
  exact List.mem_map.mpr ⟨rd, List.mem_filter.mpr ⟨hrd, decide_eq_true hname⟩, rfl⟩

/-- There is one definition for a name. -/
theorem Directory.IsRole.unique {name : String} {rd rd' : RoleDefinition} (h : dir.IsRole name rd)
    (h' : dir.IsRole name rd') : rd = rd' :=
  Option.some.inj (h.get?_eq.symm.trans h'.get?_eq)

/-- A role is assigned by the id of its definition. -/
theorem Directory.IsRole.assigned_iff {name : String} {rd : RoleDefinition} (h : dir.IsRole name rd)
    (user : ℕ) (rows : List RoleUserAssignment) (pk : ℕ) :
    dir.Assigned user rows name pk ↔ AssignedId user rows rd.id pk := by
  constructor
  · rintro ⟨rd', hrd', hsame, hrow⟩
    rw [List.inj_on_of_nodup_map dir.nodup_roleDefinition_name hrd' h.mem
      (hsame.trans h.name_eq.symm)] at hrow
    exact hrow
  · exact fun hrow => ⟨rd, h.mem, h.name_eq, hrow⟩

/-- The definitions of different roles have different ids. -/
theorem Directory.IsRole.id_ne {name name' : String} {rd rd' : RoleDefinition}
    (h : dir.IsRole name rd) (h' : dir.IsRole name' rd') (hne : name ≠ name') : rd.id ≠ rd'.id := by
  intro hid
  apply hne
  rw [← h.name_eq, ← h'.name_eq,
    List.inj_on_of_nodup_map dir.nodup_roleDefinition_id h.mem h'.mem hid]

/-- The definitions of the four roles. -/
structure Directory.Roles (dir : Directory) where
  orgAdmin : RoleDefinition
  orgMember : RoleDefinition
  teamAdmin : RoleDefinition
  teamMember : RoleDefinition
  isRole_orgAdmin : dir.IsRole "Organization Admin" orgAdmin
  isRole_orgMember : dir.IsRole "Organization Member" orgMember
  isRole_teamAdmin : dir.IsRole "Team Admin" teamAdmin
  isRole_teamMember : dir.IsRole "Team Member" teamMember

/-- Where the four roles are defined, their definitions are looked up. -/
theorem nonempty_roles
    (hdefs : ∀ name ∈ expectedNames, ∃ rd ∈ dir.roleDefinitions, rd.name = name) :
    Nonempty dir.Roles := by
  have hrole : ∀ name ∈ expectedNames, ∃ rd, dir.IsRole name rd := by
    intro name hname
    obtain ⟨rd, hrd, rfl⟩ := hdefs name hname
    exact ⟨rd, isRole_of_mem hrd hname⟩
  obtain ⟨orgAdmin, horgAdmin⟩ := hrole "Organization Admin" (by decide)
  obtain ⟨orgMember, horgMember⟩ := hrole "Organization Member" (by decide)
  obtain ⟨teamAdmin, hteamAdmin⟩ := hrole "Team Admin" (by decide)
  obtain ⟨teamMember, hteamMember⟩ := hrole "Team Member" (by decide)
  exact ⟨⟨orgAdmin, orgMember, teamAdmin, teamMember, horgAdmin, horgMember, hteamAdmin,
    hteamMember⟩⟩

/-- An organization is determined by the name in its claim. -/
theorem organization_eq_of_name (dir : Directory) :
    ∀ o ∈ dir.organizations, ∀ o' ∈ dir.organizations, ∀ roles roles' : List String,
      (OrganizationClaim.mk o.name roles).name = (OrganizationClaim.mk o'.name roles').name →
      o = o' :=
  fun _ ho _ ho' _ _ h => List.inj_on_of_nodup_map dir.nodup_organization_name ho ho' h

/-- A team is determined by its name and the name of its organization. -/
theorem team_eq_of_names (dir : Directory) :
    ∀ t ∈ dir.teams, ∀ t' ∈ dir.teams, ∀ _roles _roles' : List String,
      toLex (t.organization.name, t.name) = toLex (t'.organization.name, t'.name) → t = t' := by
  intro t ht t' ht' _ _ h
  obtain ⟨horganization, hname⟩ := Prod.mk.inj h
  have hsame := List.inj_on_of_nodup_map dir.nodup_organization_name (dir.organization_mem t ht)
    (dir.organization_mem t' ht') horganization
  exact List.inj_on_of_nodup_map dir.nodup_team_name ht ht' (by rw [hsame, hname])

section Lists

variable {adminId memberId : ℕ} {rows' : List RoleUserAssignment}

/-- The claims about organizations do not depend on the order of the rows. -/
theorem orgClaims_perm (hne : adminId ≠ memberId) (hrows : rows'.Perm rows) :
    dir.orgClaims user adminId memberId rows' = dir.orgClaims user adminId memberId rows :=
  roleClaims_perm hne dir.nodup_organization_pk dir.organization_pk_lt
    (organization_eq_of_name dir) hrows

/-- The claims about teams do not depend on the order of the rows. -/
theorem teamClaims_perm (hne : adminId ≠ memberId) (hrows : rows'.Perm rows) :
    dir.teamClaims user adminId memberId rows' = dir.teamClaims user adminId memberId rows :=
  roleClaims_perm hne dir.nodup_team_pk dir.team_pk_lt (team_eq_of_names dir) hrows

/-- A claim about an organization. -/
theorem mem_orgClaims (hne : adminId ≠ memberId) {claims : List OrganizationClaim}
    (h : dir.orgClaims user adminId memberId rows = some claims) (c : OrganizationClaim) :
    c ∈ claims ↔ ∃ o ∈ dir.organizations, c.name = o.name ∧ c.roles ≠ [] ∧
      IsRoleSet (AssignedId user rows adminId o.pk) (AssignedId user rows memberId o.pk)
        c.roles := by
  rw [mem_roleClaims hne dir.nodup_organization_pk dir.organization_pk_lt h]
  constructor
  · rintro ⟨o, ho, roles, hnil, hroles, rfl⟩
    exact ⟨o, ho, rfl, hnil, hroles⟩
  · rintro ⟨o, ho, hname, hnil, hroles⟩
    exact ⟨o, ho, c.roles, hnil, hroles, by rw [← hname]⟩

/-- A claim about a team. -/
theorem mem_teamClaims (hne : adminId ≠ memberId) {claims : List TeamClaim}
    (h : dir.teamClaims user adminId memberId rows = some claims) (c : TeamClaim) :
    c ∈ claims ↔ ∃ t ∈ dir.teams, c.name = t.name ∧ c.organization = t.organization.name ∧
      c.roles ≠ [] ∧
      IsRoleSet (AssignedId user rows adminId t.pk) (AssignedId user rows memberId t.pk)
        c.roles := by
  rw [mem_roleClaims hne dir.nodup_team_pk dir.team_pk_lt h]
  constructor
  · rintro ⟨t, ht, roles, hnil, hroles, rfl⟩
    exact ⟨t, ht, rfl, rfl, hnil, hroles⟩
  · rintro ⟨t, ht, hname, horganization, hnil, hroles⟩
    exact ⟨t, ht, c.roles, hnil, hroles, by rw [← hname, ← horganization]⟩

end Lists

namespace Directory.Roles

variable (roles : dir.Roles)

/-- The two roles in organizations differ. -/
theorem org_ne : roles.orgAdmin.id ≠ roles.orgMember.id :=
  roles.isRole_orgAdmin.id_ne roles.isRole_orgMember (by decide)

/-- The two roles in teams differ. -/
theorem team_ne : roles.teamAdmin.id ≠ roles.teamMember.id :=
  roles.isRole_teamAdmin.id_ne roles.isRole_teamMember (by decide)

/-- The claims are those about organizations and those about teams. -/
theorem buildRoleClaims_eq (user : ℕ) (rows : List RoleUserAssignment) :
    buildRoleClaims dir user rows =
      (dir.orgClaims user roles.orgAdmin.id roles.orgMember.id rows).bind fun orgClaims =>
        (dir.teamClaims user roles.teamAdmin.id roles.teamMember.id rows).bind fun teamClaims =>
          some (orgClaims, teamClaims) := by
  rw [buildRoleClaims, roles.isRole_orgAdmin.get?_eq, roles.isRole_orgMember.get?_eq,
    roles.isRole_teamAdmin.get?_eq, roles.isRole_teamMember.get?_eq]
  rfl

/-- The ids that are converted are those of the four roles. -/
theorem hasNumericIds_iff :
    dir.HasNumericIds user rows ↔
      (∀ objId, ⟨user, some objId, roles.orgAdmin.id⟩ ∈ rows ∨
        ⟨user, some objId, roles.orgMember.id⟩ ∈ rows → (pyInt objId).isSome = true) ∧
      ∀ objId, ⟨user, some objId, roles.teamAdmin.id⟩ ∈ rows ∨
        ⟨user, some objId, roles.teamMember.id⟩ ∈ rows → (pyInt objId).isSome = true := by
  constructor
  · intro h
    -- A definition of one of the four names is the one of this name.
    have hrole : ∀ {name : String} {rd : RoleDefinition}, dir.IsRole name rd →
        name ∈ expectedNames → ∀ objId, ⟨user, some objId, rd.id⟩ ∈ rows →
          (pyInt objId).isSome = true :=
      fun hrd hname objId hrow => h _ hrd.mem (hrd.name_eq.symm ▸ hname) objId hrow
    constructor
    · rintro objId (hrow | hrow)
      · exact hrole roles.isRole_orgAdmin (by decide) objId hrow
      · exact hrole roles.isRole_orgMember (by decide) objId hrow
    · rintro objId (hrow | hrow)
      · exact hrole roles.isRole_teamAdmin (by decide) objId hrow
      · exact hrole roles.isRole_teamMember (by decide) objId hrow
  · rintro ⟨horg, hteam⟩ rd hrd hname objId hrow
    have hrole := isRole_of_mem hrd hname
    simp only [expectedNames, List.mem_cons, List.not_mem_nil, or_false] at hname
    rcases hname with hname | hname | hname | hname <;> rw [hname] at hrole
    · exact horg objId (Or.inl (hrole.unique roles.isRole_orgAdmin ▸ hrow))
    · exact horg objId (Or.inr (hrole.unique roles.isRole_orgMember ▸ hrow))
    · exact hteam objId (Or.inl (hrole.unique roles.isRole_teamAdmin ▸ hrow))
    · exact hteam objId (Or.inr (hrole.unique roles.isRole_teamMember ▸ hrow))

/-- The claims are built exactly if the ids can be converted. -/
theorem isSome_buildRoleClaims_iff (roles : dir.Roles) :
    (buildRoleClaims dir user rows).isSome = true ↔ dir.HasNumericIds user rows := by
  have horg : (dir.orgClaims user roles.orgAdmin.id roles.orgMember.id rows).isSome = true ↔ _ :=
    isSome_roleClaims_iff roles.org_ne
  have hteam :
      (dir.teamClaims user roles.teamAdmin.id roles.teamMember.id rows).isSome = true ↔ _ :=
    isSome_roleClaims_iff roles.team_ne
  rw [roles.hasNumericIds_iff, ← horg, ← hteam, roles.buildRoleClaims_eq]
  cases dir.orgClaims user roles.orgAdmin.id roles.orgMember.id rows with
  | none => simp
  | some orgClaims =>
      cases dir.teamClaims user roles.teamAdmin.id roles.teamMember.id rows <;> simp

end Directory.Roles

/-- With the four roles defined, the claims of the user are canonical exactly if the object ids in
the user's rows for these roles are numbers. Another id raises in `pk__in`, and the user has no
claims. -/
theorem hasCanonicalClaims_iff (dir : Directory) (user : ℕ) (rows : List RoleUserAssignment)
    (hdefs : ∀ name ∈ expectedNames, ∃ rd ∈ dir.roleDefinitions, rd.name = name) :
    dir.HasCanonicalClaims user rows ↔ dir.HasNumericIds user rows := by
  obtain ⟨roles⟩ := nonempty_roles hdefs
  -- With the four definitions there, the claims are built where each id is a number.
  rw [← roles.isSome_buildRoleClaims_iff]
  constructor
  · rintro ⟨-, orgClaims, teamClaims, hbuild, -⟩
    rw [hbuild]
    rfl
  · intro hsome
    -- The two lists are sorted, without duplicates and of these members, in any order of the rows.
    refine ⟨fun rows' hrows => ?_, ?_⟩
    · rw [roles.buildRoleClaims_eq, roles.buildRoleClaims_eq, orgClaims_perm roles.org_ne hrows,
        teamClaims_perm roles.team_ne hrows]
    · obtain ⟨⟨orgClaims, teamClaims⟩, hbuild⟩ := Option.isSome_iff_exists.mp hsome
      have hlists := hbuild
      rw [roles.buildRoleClaims_eq] at hlists
      obtain ⟨orgs, horg, hlists⟩ := Option.bind_eq_some_iff.mp hlists
      obtain ⟨teams, hteam, hlists⟩ := Option.bind_eq_some_iff.mp hlists
      obtain ⟨horgs, hteams⟩ := Prod.mk.inj (Option.some.inj hlists)
      subst horgs hteams
      -- The entries of both lists are told apart by their names, in the order of their keys.
      refine ⟨orgs, teams, hbuild, ?_, fun c => ?_, ?_, fun c => ?_⟩
      · exact pairwise_roleClaims dir.nodup_organization_pk dir.organization_pk_lt
          (organization_eq_of_name dir) horg
      · simp only [mem_orgClaims roles.org_ne horg, roles.isRole_orgAdmin.assigned_iff,
          roles.isRole_orgMember.assigned_iff]
      · exact pairwise_roleClaims dir.nodup_team_pk dir.team_pk_lt (team_eq_of_names dir) hteam
      · simp only [mem_teamClaims roles.team_ne hteam, roles.isRole_teamAdmin.assigned_iff,
          roles.isRole_teamMember.assigned_iff]

/-- A directory with one organization and one team. -/
def sampleDirectory : Directory where
  roleDefinitions := [⟨1, "Organization Admin"⟩, ⟨2, "Organization Member"⟩, ⟨3, "Team Admin"⟩,
    ⟨4, "Team Member"⟩]
  organizations := [⟨1, "Default"⟩]
  teams := [⟨7, "Operators", ⟨1, "Default"⟩⟩]
  nodup_roleDefinition_id := by decide
  nodup_roleDefinition_name := by decide
  nodup_organization_pk := by decide
  nodup_organization_name := by decide
  nodup_team_pk := by decide
  nodup_team_name := by decide
  organization_mem := by decide
  organization_pk_lt := by decide
  team_pk_lt := by decide

/-- Rows of a user, with a repeated one, one of an organization that is gone and one of a role in
the whole system. -/
def sampleRows : List RoleUserAssignment :=
  [⟨5, some "1", 2⟩, ⟨5, some "9", 1⟩, ⟨5, none, 12⟩, ⟨5, some "1", 1⟩, ⟨5, some "1", 2⟩,
    ⟨5, some "7", 4⟩]

/-- The object ids of the rows are numbers. -/
theorem hasNumericIds_sampleRows : sampleDirectory.HasNumericIds 5 sampleRows := by
  intro rd _ _ objId hrow
  have hids : objId ∈ sampleRows.filterMap RoleUserAssignment.objectId :=
    List.mem_filterMap.mpr ⟨_, hrow, rfl⟩
  have hkey : ∀ n : ℕ, n < 2 ^ 63 → (pyInt (toString n)).isSome = true :=
    fun n hn => by rw [pyInt_key hn]; rfl
  simp only [sampleRows, List.filterMap_cons, List.filterMap_nil, List.mem_cons,
    List.not_mem_nil, or_false] at hids
  rcases hids with rfl | rfl | rfl | rfl | rfl
  · exact hkey 1 (by decide)
  · exact hkey 9 (by decide)
  · exact hkey 1 (by decide)
  · exact hkey 1 (by decide)
  · exact hkey 7 (by decide)

/-- The user is an admin and a member of the organization, in any order of the rows. -/
theorem mem_buildRoleClaims_sampleRows :
    (∀ rows', rows'.Perm sampleRows →
      buildRoleClaims sampleDirectory 5 rows' = buildRoleClaims sampleDirectory 5 sampleRows) ∧
    ∃ orgClaims teamClaims,
      buildRoleClaims sampleDirectory 5 sampleRows = some (orgClaims, teamClaims) ∧
      ⟨"Default", ["admin", "member"]⟩ ∈ orgClaims := by
  obtain ⟨hperm, orgClaims, teamClaims, hbuild, -, horg, -, -⟩ :=
    (hasCanonicalClaims_iff sampleDirectory 5 sampleRows (by decide)).mpr hasNumericIds_sampleRows
  refine ⟨hperm, orgClaims, teamClaims, hbuild, (horg _).mpr ⟨⟨1, "Default"⟩, by decide, rfl,
    by simp, ⟨by decide, fun role => ?_⟩⟩⟩
  have hadmin : sampleDirectory.Assigned 5 sampleRows "Organization Admin" 1 :=
    ⟨⟨1, "Organization Admin"⟩, by decide, rfl, by decide⟩
  have hmember : sampleDirectory.Assigned 5 sampleRows "Organization Member" 1 :=
    ⟨⟨2, "Organization Member"⟩, by decide, rfl, by decide⟩
  simp [hadmin, hmember]

/-- A row with the UUID of a deleted object takes the role in the organization out of the claims. -/
theorem not_hasCanonicalClaims_uuid :
    ¬sampleDirectory.HasCanonicalClaims 5
      [⟨5, some "1", 2⟩, ⟨5, some "d9b7f25c-6b0e-4a3c-9f0a-3f2a1c9d8e7f", 2⟩] := by
  have hdefs : ∀ name ∈ expectedNames, ∃ rd ∈ sampleDirectory.roleDefinitions, rd.name = name := by
    decide
  obtain ⟨roles⟩ := nonempty_roles hdefs
  rintro ⟨-, orgClaims, teamClaims, hbuild, -⟩
  have hsome : (buildRoleClaims sampleDirectory 5
      [⟨5, some "1", 2⟩, ⟨5, some "d9b7f25c-6b0e-4a3c-9f0a-3f2a1c9d8e7f", 2⟩]).isSome = true := by
    rw [hbuild]
    rfl
  have hid := roles.isSome_buildRoleClaims_iff.mp hsome ⟨2, "Organization Member"⟩ (by decide)
    (by decide) "d9b7f25c-6b0e-4a3c-9f0a-3f2a1c9d8e7f" (by decide)
  have hnone : pyInt "d9b7f25c-6b0e-4a3c-9f0a-3f2a1c9d8e7f" = none :=
    pyInt_eq_none (c := 'd') (by decide) (by decide)
  rw [hnone] at hid
  cases hid

end Canonical

end AapGateway.Oidc
