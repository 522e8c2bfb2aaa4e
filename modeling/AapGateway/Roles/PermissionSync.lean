import AapGateway.Foundations.Table
import AapGateway.Roles.SystemRoles

/-!
# Role definitions from a service

A service that changes a role definition sends it to the gateway with those permissions that the
service knows: its own and the shared ones. `GatewayRoleDefinitionProcessor` replaces these and
keeps the permissions of the other services. It takes the services that are affected from the
permissions that were sent, and it reads the previous permissions before the role that was sent is
looked up.

## Main definitions

* `RoleData`: what is sent;
* `saveRole` and `updateInstancePermissions`: the processor;
* `Replaced`: the permissions of the sender are exactly those that were sent.

## Main results

* `replaced_iff`: when they are.
-/

namespace AapGateway.Roles

/-- A role definition as a service sends it. -/
structure RoleData where
  name : Option String
  description : Option String
  content_type : Option (Option ContentType)
  managed : Option Bool
  permissions : List Permission

/-- The error on permissions of two services. -/
inductive SyncError where
  /-- "Not expected to set permissions for more than 1 non-shared service". -/
  | severalServices
  deriving DecidableEq, Repr

/-- `setattr` of what is sent, less the permissions. -/
def setAttributes (data : RoleData) (role : RoleDefinition) : RoleDefinition :=
  { role with
    name := data.name.getD role.name
    description := data.description.getD role.description
    content_type := data.content_type.getD role.content_type
    managed := data.managed.getD role.managed }

/-- Some attribute that is sent differs. -/
def hasFieldChanges (data : RoleData) (role : RoleDefinition) : Bool :=
  data.name.any (· ≠ role.name) || data.description.any (· ≠ role.description) ||
    data.content_type.any (· ≠ role.content_type) || data.managed.any (· ≠ role.managed)

/-- The role that a `POST` resolves to: the first one with the name, which is the unique field, and
without a name the first one of all. -/
def existing? (table : List RoleDefinition) (data : RoleData) : Option RoleDefinition :=
  Table.firstByKey RoleDefinition.pk (table.filter fun role => data.name.all (· = role.name))

/-- The role that is created. -/
def newRole (newPk : ℕ) (data : RoleData) : RoleDefinition :=
  setAttributes data
    { pk := newPk, name := "", description := "", content_type := none, managed := false,
      permissions := ∅ }

/-- `GetOrCreateProcessor.save`: whether something changed, and the role. No serializer of the
gateway validates role definitions. -/
def saveAttributes (table : List RoleDefinition) (newPk : ℕ) (instance? : Option RoleDefinition)
    (data : RoleData) : Bool × RoleDefinition :=
  match instance? with
  | some role => (hasFieldChanges data role, setAttributes data role)
  | none =>
    match existing? table data with
    | some role =>
      let data := { data with name := none }
      (hasFieldChanges data role, setAttributes data role)
    | none => (true, newRole newPk data)

/-- `update_instance_permissions`. Without existing permissions all new ones are added. -/
def updateInstancePermissions (role : RoleDefinition) (new_perms : List Permission)
    (existing_perms : Option (Finset Permission)) : Except SyncError RoleDefinition :=
  let new_services := (new_perms.map Permission.service).toFinset
  if (new_services.card = 2 ∧ "shared" ∈ new_services) ∨ new_services.card = 1 then
    match existing_perms with
    | none => .ok { role with permissions := role.permissions ∪ new_perms.toFinset }
    | some existing_perms =>
      let current_relevant_set := existing_perms.filter (·.service ∈ new_services)
      let to_remove := current_relevant_set \ new_perms.toFinset
      let to_add := new_perms.toFinset \ current_relevant_set
      .ok { role with permissions := (role.permissions ∪ to_add) \ to_remove }
  else .error .severalServices

/-- `GatewayRoleDefinitionProcessor.save`: of an existing role, or of a `POST`. -/
def saveRole (table : List RoleDefinition) (newPk : ℕ) (instance? : Option RoleDefinition)
    (data : RoleData) : Except SyncError (Bool × RoleDefinition) := do
  let existing_perms := if data.permissions.isEmpty then none
    else instance?.map RoleDefinition.permissions
  let (changed, role) := saveAttributes table newPk instance? data
  if data.permissions.isEmpty then return (changed, role)
  else
    let role ← updateInstancePermissions role data.permissions existing_perms
    return (true, role)

/-- The permissions that the role has before. -/
def permissionsBefore (table : List RoleDefinition) (instance? : Option RoleDefinition)
    (data : RoleData) : Finset Permission :=
  match instance? with
  | some role => role.permissions
  | none => (existing? table data).elim ∅ RoleDefinition.permissions

/-- What is sent is of one service, and shared. -/
def FromService (service : String) (permissions : List Permission) : Prop :=
  ∀ p ∈ permissions, p.service = service ∨ p.service = "shared"

/-- The permission is of the sender, or shared where shared ones are sent. -/
def Affected (service : String) (permissions : List Permission) (p : Permission) : Prop :=
  p.service = service ∨ p.service = "shared" ∧ ∃ q ∈ permissions, q.service = "shared"

/-- The permissions of the sender, and the shared ones if such are sent, are exactly those that were
sent. All others are unchanged. -/
def Replaced (service : String) (permissions : List Permission) (before after : Finset Permission) :
    Prop :=
  ∀ p, (Affected service permissions p → (p ∈ after ↔ p ∈ permissions)) ∧
    (¬Affected service permissions p → (p ∈ after ↔ p ∈ before))

/-- The previous permissions do not stand in the way. An update of a role sends a permission of the
sender, or there was none; a `POST` sends all those that were there. -/
def Unhindered (service : String) (instance? : Option RoleDefinition)
    (permissions : List Permission)
    (before : Finset Permission) : Prop :=
  match instance? with
  | some _ => (∃ p ∈ permissions, p.service = service) ∨ ∀ p ∈ before, p.service ≠ service
  | none => ∀ p ∈ before, Affected service permissions p → p ∈ permissions

variable {service : String} {permissions : List Permission} {before : Finset Permission}

/-- Permissions of one service and shared ones are of one service or of two. -/
theorem services_of_fromService (h : FromService service permissions) (hne : permissions ≠ []) :
    ((permissions.map Permission.service).toFinset.card = 2 ∧
        "shared" ∈ (permissions.map Permission.service).toFinset) ∨
      (permissions.map Permission.service).toFinset.card = 1 := by
  have hsubset : (permissions.map Permission.service).toFinset ⊆ {service, "shared"} := by
    intro name hname
    obtain ⟨p, hp, rfl⟩ := List.mem_map.mp (List.mem_toFinset.mp hname)
    rw [Finset.mem_insert, Finset.mem_singleton]
    exact h p hp
  have hpos : 0 < (permissions.map Permission.service).toFinset.card := by
    rw [Finset.card_pos, List.toFinset_nonempty_iff]
    simpa using hne
  have hle := (Finset.card_le_card hsubset).trans Finset.card_le_two
  -- Two services are all that there may be.
  have hcard : (permissions.map Permission.service).toFinset.card = 2 ∨
      (permissions.map Permission.service).toFinset.card = 1 := by omega
  rcases hcard with htwo | hone
  · refine Or.inl ⟨htwo, ?_⟩
    have heq := Finset.eq_of_subset_of_card_le hsubset (by rw [htwo]; exact Finset.card_le_two)
    rw [heq]
    simp
  · exact Or.inr hone

/-- A permission that is sent is affected. -/
theorem affected_of_mem (h : FromService service permissions) {p : Permission}
    (hp : p ∈ permissions) : Affected service permissions p :=
  (h p hp).imp_right fun hshared => ⟨hshared, p, hp, hshared⟩

/-- A permission of a service of which something is sent is affected. -/
theorem affected_of_service (h : FromService service permissions) {p q : Permission}
    (hq : q ∈ permissions) (hsame : q.service = p.service) : Affected service permissions p := by
  rcases h q hq with hservice | hshared
  · exact Or.inl (hsame.symm.trans hservice)
  · exact Or.inr ⟨hsame.symm.trans hshared, q, hq, hshared⟩

/-- What an update makes of the permissions: of the services of which something is sent there are
those that are sent, and of the others those there were. -/
theorem permissions_update {role : RoleDefinition} (h : FromService service permissions)
    (hne : permissions ≠ []) :
    ∃ role', updateInstancePermissions role permissions (some role.permissions) = .ok role' ∧
      ∀ p, p ∈ role'.permissions ↔
        if ∃ q ∈ permissions, q.service = p.service then p ∈ permissions
        else p ∈ role.permissions := by
  unfold updateInstancePermissions
  dsimp only
  rw [if_pos (services_of_fromService h hne)]
  refine ⟨_, rfl, fun p => ?_⟩
  simp only [Finset.mem_sdiff, Finset.mem_union, Finset.mem_filter, List.mem_toFinset, List.mem_map]
  by_cases hsent : ∃ q ∈ permissions, q.service = p.service
  · rw [if_pos hsent]
    simp only [hsent, and_true]
    tauto
  · rw [if_neg hsent]
    have hnot : p ∉ permissions := fun hp => hsent ⟨p, hp, rfl⟩
    simp only [hsent, hnot, and_false, or_false, not_false_eq_true, and_true]

/-- What a `POST` makes of the permissions: what is sent is added. -/
theorem permissions_add {role : RoleDefinition} (h : FromService service permissions)
    (hne : permissions ≠ []) :
    updateInstancePermissions role permissions none =
      .ok { role with permissions := role.permissions ∪ permissions.toFinset } := by
  unfold updateInstancePermissions
  dsimp only
  rw [if_pos (services_of_fromService h hne)]

/-- After an update the permissions of the sender are those that were sent, exactly if one was sent
or there was none. -/
theorem replaced_update_iff {after : Finset Permission} (h : FromService service permissions)
    (hafter : ∀ p, p ∈ after ↔
      if ∃ q ∈ permissions, q.service = p.service then p ∈ permissions else p ∈ before) :
    Replaced service permissions before after ↔
      (∃ p ∈ permissions, p.service = service) ∨ ∀ p ∈ before, p.service ≠ service := by
  constructor
  · intro hreplaced
    by_contra hnot
    push Not at hnot
    obtain ⟨hnone, p, hp, hservice⟩ := hnot
    -- Such a permission stays, although it was not sent.
    have hunsent : ¬∃ q ∈ permissions, q.service = p.service := by
      rintro ⟨q, hq, hsame⟩
      exact hnone q hq (hsame.trans hservice)
    have hstays : p ∈ after := by
      rw [hafter, if_neg hunsent]
      exact hp
    exact hunsent ⟨p, ((hreplaced p).1 (Or.inl hservice)).mp hstays, rfl⟩
  · intro hsent p
    rw [hafter]
    constructor
    · intro haffected
      by_cases hsame : ∃ q ∈ permissions, q.service = p.service
      · rw [if_pos hsame]
      · -- Nothing of its service was sent, so that it is of the sender, which had nothing.
        rw [if_neg hsame]
        have hservice : p.service = service := by
          refine haffected.resolve_right ?_
          rintro ⟨hshared, q, hq, hqshared⟩
          exact hsame ⟨q, hq, hqshared.trans hshared.symm⟩
        have hnone : ∀ q ∈ before, q.service ≠ service := by
          refine hsent.resolve_left ?_
          rintro ⟨q, hq, hqservice⟩
          exact hsame ⟨q, hq, hqservice.trans hservice.symm⟩
        exact iff_of_false (fun hp => hnone p hp hservice) fun hp => hsame ⟨p, hp, rfl⟩
    · intro hunaffected
      have hsame : ¬∃ q ∈ permissions, q.service = p.service := by
        rintro ⟨q, hq, hsame⟩
        exact hunaffected (affected_of_service h hq hsame)
      rw [if_neg hsame]

/-- After a `POST` the permissions of the sender are those that were sent, exactly if the ones that
were there were sent again. -/
theorem replaced_add_iff {after : Finset Permission} (h : FromService service permissions)
    (hafter : ∀ p, p ∈ after ↔ p ∈ before ∨ p ∈ permissions) :
    Replaced service permissions before after ↔
      ∀ p ∈ before, Affected service permissions p → p ∈ permissions := by
  constructor
  · intro hreplaced p hp haffected
    exact ((hreplaced p).1 haffected).mp ((hafter p).mpr (Or.inl hp))
  · intro hsent p
    rw [hafter]
    constructor
    · intro haffected
      exact ⟨fun hp => hp.elim (fun hbefore => hsent p hbefore haffected) id, Or.inr⟩
    · intro hunaffected
      exact ⟨fun hp => hp.resolve_right fun hmem => hunaffected (affected_of_mem h hmem), Or.inl⟩

/-- The attributes of a role are set without a change of its permissions. -/
theorem permissions_saveAttributes (table : List RoleDefinition) (newPk : ℕ)
    (instance? : Option RoleDefinition) (data : RoleData) :
    (saveAttributes table newPk instance? data).2.permissions =
      permissionsBefore table instance? data := by
  unfold saveAttributes permissionsBefore
  cases instance? with
  | some role => rfl
  | none => cases existing? table data <;> rfl

/-- An update of a role, service by service. Where nothing is sent the permissions stay. -/
theorem saveRole_update (table : List RoleDefinition) (newPk : ℕ) (role : RoleDefinition)
    (data : RoleData) (h : FromService service data.permissions) :
    ∃ changed role', saveRole table newPk (some role) data = .ok (changed, role') ∧
      ∀ p, p ∈ role'.permissions ↔
        if ∃ q ∈ data.permissions, q.service = p.service then p ∈ data.permissions
        else p ∈ role.permissions := by
  unfold saveRole
  by_cases hempty : data.permissions = []
  · rw [hempty]
    refine ⟨hasFieldChanges data role, setAttributes data role, rfl, fun p => ?_⟩
    rw [if_neg (by simp)]
    rfl
  · obtain ⟨role', hok, hpermissions⟩ :=
      @permissions_update service data.permissions (setAttributes data role) h hempty
    refine ⟨true, role', ?_, hpermissions⟩
    simp only [List.isEmpty_iff, if_neg hempty]
    show (updateInstancePermissions (setAttributes data role) data.permissions
      (some (setAttributes data role).permissions) >>= _) = _
    rw [hok]
    rfl

/-- A `POST` of a role adds what is sent. -/
theorem saveRole_post (table : List RoleDefinition) (newPk : ℕ) (data : RoleData)
    (h : FromService service data.permissions) :
    ∃ changed role', saveRole table newPk none data = .ok (changed, role') ∧
      ∀ p, p ∈ role'.permissions ↔
        p ∈ permissionsBefore table none data ∨ p ∈ data.permissions := by
  have hbefore := permissions_saveAttributes table newPk none data
  unfold saveRole
  by_cases hempty : data.permissions = []
  · rw [hempty]
    refine ⟨(saveAttributes table newPk none data).1, (saveAttributes table newPk none data).2, rfl,
      fun p => ?_⟩
    rw [hbefore]
    simp
  · refine ⟨true, { (saveAttributes table newPk none data).2 with
      permissions := (saveAttributes table newPk none data).2.permissions ∪
        data.permissions.toFinset }, ?_, ?_⟩
    · simp only [List.isEmpty_iff, if_neg hempty, Option.map_none]
      show (updateInstancePermissions (saveAttributes table newPk none data).2 data.permissions none
        >>= _) = _
      rw [permissions_add h hempty]
      rfl
    · intro p
      rw [Finset.mem_union, hbefore, List.mem_toFinset]

/-- A role definition that a service sends is saved, and the permissions of that service are then
exactly those that were sent if and only if the previous ones do not stand in the way. -/
theorem replaced_iff (table : List RoleDefinition) (newPk : ℕ) (instance? : Option RoleDefinition)
    (data : RoleData) (h : FromService service data.permissions) :
    ∃ changed role, saveRole table newPk instance? data = .ok (changed, role) ∧
      (Replaced service data.permissions (permissionsBefore table instance? data)
          role.permissions ↔
        Unhindered service instance? data.permissions
          (permissionsBefore table instance? data)) := by
  cases instance? with
  | some role =>
      obtain ⟨changed, role', hok, hpermissions⟩ := saveRole_update table newPk role data h
      exact ⟨changed, role', hok, replaced_update_iff h hpermissions⟩
  | none =>
      obtain ⟨changed, role', hok, hpermissions⟩ := saveRole_post table newPk data h
      exact ⟨changed, role', hok, replaced_add_iff h hpermissions⟩

/-- A permission of the controller. -/
def executeJob : Permission where
  codename := "execute_jobtemplate"
  content_type := ⟨"controller", "jobtemplate"⟩

/-- A permission of another service. -/
def viewActivation : Permission where
  codename := "view_activation"
  content_type := ⟨"eda", "activation"⟩

/-- A role with permissions of two services. -/
def operator : RoleDefinition where
  pk := 1
  name := "Operator"
  description := ""
  content_type := none
  managed := false
  permissions := {viewProject, viewActivation}

/-- The role with other permissions, as the controller sends it. -/
def sentOperator (permissions : List Permission) : RoleData where
  name := some "Operator"
  description := none
  content_type := none
  managed := none
  permissions := permissions

/-- An update replaces the permissions of the controller. -/
theorem replaced_operator :
    ∃ changed role, saveRole [operator] 2 (some operator) (sentOperator [executeJob]) =
        .ok (changed, role) ∧
      Replaced "controller" [executeJob] operator.permissions role.permissions := by
  have hsent : FromService "controller" [executeJob] := by
    intro p hp
    exact Or.inl (by rw [List.mem_singleton.mp hp]; rfl)
  obtain ⟨changed, role, hok, hiff⟩ := replaced_iff [operator] 2 (some operator)
    (sentOperator [executeJob]) hsent
  exact ⟨changed, role, hok, hiff.mpr (Or.inl ⟨executeJob, List.mem_cons_self, rfl⟩)⟩

/-- A `POST` that resolves to the role keeps a permission that the controller no longer sends, and
so does an update that sends none. -/
theorem not_replaced_operator :
    ∃ post update, saveRole [operator] 2 none (sentOperator [executeJob]) = .ok post ∧
      saveRole [operator] 2 (some operator) (sentOperator []) = .ok update ∧
      ¬Replaced "controller" [executeJob] operator.permissions post.2.permissions ∧
      ¬Replaced "controller" [] operator.permissions update.2.permissions := by
  refine ⟨_, _, rfl, rfl, ?_, ?_⟩
  · intro hreplaced
    have hview := (hreplaced viewProject).1 (Or.inl rfl)
    exact absurd (hview.mp (by decide)) (by decide)
  · intro hreplaced
    have hview := (hreplaced viewProject).1 (Or.inl rfl)
    exact absurd (hview.mp (by decide)) (by decide)

end AapGateway.Roles
