import Mathlib.Data.Finset.Basic
import Mathlib.Data.Finset.Image

/-!
# Permissions of system roles

A role definition without a content type is a system role, and a system role may only have
permissions of the galaxy service. `GatewayRoleDefinitionSerializer.validate` checks this of the
attributes of a request. A `PATCH` need not name them all, and an attribute that is not named is not
taken from the role that is changed: an absent content type counts as null, and absent permissions
as none.

## Main definitions

* `Permission`, `RoleDefinition` and `RoleAttrs`: the roles, and the attributes of a request;
* `validate`: the validation of a request;
* `resulting`: the content type and the permissions that the request would leave.

## Main results

* `galaxyOnly_iff`: the validation speaks of the role that would result, exactly if what the request
  leaves out makes no difference.
-/

namespace AapGateway.Roles

/-- A type of content, with the service it is of. -/
structure ContentType where
  service : String
  model : String
  deriving DecidableEq, Repr

/-- A permission (`DABPermission`). -/
structure Permission where
  codename : String
  content_type : ContentType
  deriving DecidableEq, Repr

/-- The service of a permission. -/
def Permission.service (p : Permission) : String := p.content_type.service

/-- A role definition. One without a content type is a system role. -/
structure RoleDefinition where
  pk : ℕ
  name : String
  description : String
  content_type : Option ContentType
  managed : Bool
  permissions : Finset Permission

/-- The attributes of a request, as far as it has them. A content type may be null. -/
structure RoleAttrs where
  name : Option String
  description : Option String
  content_type : Option (Option ContentType)
  permissions : Option (List Permission)

/-- What the validation raises: an error of the base class, or the one on system roles. -/
inductive RoleError (ε : Type) where
  | base (error : ε)
  | galaxyOnly (message : String)

section Validate

variable {ε : Type}

/-- The permissions of other services. -/
def invalidPermissions (permissions : List Permission) : List Permission :=
  permissions.filter (·.service ≠ "galaxy")

/-- The text of the error on system roles. -/
def galaxyOnlyMessage (invalid_permissions : List Permission) : String :=
  let permissions_list := ", ".intercalate (invalid_permissions.map fun permission =>
    "'" ++ permission.codename ++ "' (service: " ++ permission.service ++ ")")
  "System roles can only have permissions for the 'galaxy' service. Invalid permissions: " ++
    permissions_list

/-- `GatewayRoleDefinitionSerializer.validate`. The validation of the base class, which may refuse
the attributes and does not change them, comes first. -/
def validate (refuses : Option RoleDefinition → RoleAttrs → Option ε)
    (instance? : Option RoleDefinition) (attrs : RoleAttrs) : Except (RoleError ε) RoleAttrs :=
  match refuses instance? attrs with
  | some error => .error (.base error)
  | none =>
    -- `attrs.get('content_type')`: an absent content type is `None` too
    match attrs.content_type.join with
    | some _ => .ok attrs
    | none =>
      let invalid_permissions := invalidPermissions (attrs.permissions.getD [])
      if invalid_permissions.isEmpty then .ok attrs
      else .error (.galaxyOnly (galaxyOnlyMessage invalid_permissions))

/-- A content type and permissions that break the rule on system roles. -/
def BreaksRule (content_type : Option ContentType) (permissions : Finset Permission) : Prop :=
  content_type = none ∧ ∃ p ∈ permissions, p.service ≠ "galaxy"

/-- The content type and the permissions of the role that would result: those of the request, and
otherwise those of the role that is changed. -/
def resulting (instance? : Option RoleDefinition) (attrs : RoleAttrs) :
    Option ContentType × Finset Permission :=
  (attrs.content_type.getD (instance?.bind RoleDefinition.content_type),
    (attrs.permissions.map List.toFinset).getD (instance?.elim ∅ RoleDefinition.permissions))

/-- The validation raises its own error. -/
def RaisesGalaxyOnly (refuses : Option RoleDefinition → RoleAttrs → Option ε)
    (instance? : Option RoleDefinition) (attrs : RoleAttrs) : Prop :=
  ∃ message, validate refuses instance? attrs = .error (.galaxyOnly message)

/-- What a request leaves out makes no difference: it creates a role, or it names both attributes,
or the permissions in question are galaxy's, or those it leaves out, or the content type it leaves
out, keep the role from being looked at. -/
def Complete (instance? : Option RoleDefinition) (attrs : RoleAttrs) : Prop :=
  ∀ role ∈ instance?, match attrs.content_type, attrs.permissions with
    | some _, some _ => True
    | none, some permissions =>
      role.content_type = none ∨ ∀ p ∈ permissions, p.service = "galaxy"
    | some content_type, none =>
      content_type ≠ none ∨ ∀ p ∈ role.permissions, p.service = "galaxy"
    | none, none => role.content_type ≠ none ∨ ∀ p ∈ role.permissions, p.service = "galaxy"

/-- There are no permissions of other services exactly if all are galaxy's. -/
theorem isEmpty_invalidPermissions (permissions : List Permission) :
    (invalidPermissions permissions).isEmpty = true ↔ ∀ p ∈ permissions, p.service = "galaxy" := by
  rw [List.isEmpty_iff, invalidPermissions, List.filter_eq_nil_iff]
  exact forall₂_congr fun p _ => by simp

/-- Without an error of the base class, the validation raises its own on a content type that is null
or absent, and permissions in the request that are not all galaxy's. -/
theorem raisesGalaxyOnly_iff {refuses : Option RoleDefinition → RoleAttrs → Option ε}
    {instance? : Option RoleDefinition} {attrs : RoleAttrs} (h : refuses instance? attrs = none) :
    RaisesGalaxyOnly refuses instance? attrs ↔
      attrs.content_type.join = none ∧
        ∃ p ∈ attrs.permissions.getD [], p.service ≠ "galaxy" := by
  unfold RaisesGalaxyOnly validate
  rw [h]
  cases hct : attrs.content_type.join with
  | some content_type => simp
  | none =>
      dsimp only
      by_cases hempty : (invalidPermissions (attrs.permissions.getD [])).isEmpty = true
      · rw [if_pos hempty]
        have hgalaxy := (isEmpty_invalidPermissions _).mp hempty
        refine iff_of_false (by simp) ?_
        rintro ⟨-, p, hp, hne⟩
        exact hne (hgalaxy p hp)
      · rw [if_neg hempty]
        rw [isEmpty_invalidPermissions] at hempty
        push Not at hempty
        exact iff_of_true ⟨_, rfl⟩ ⟨rfl, hempty⟩

/-- A conjunction holds if its second part makes no difference, or fails. -/
theorem and_iff_right_iff {a b : Prop} : (b ↔ a ∧ b) ↔ a ∨ ¬b := by
  by_cases hb : b <;> simp [hb]

/-- What the validation reads of a request is what would result, exactly if the request leaves out
nothing that makes a difference. -/
theorem reads_iff_complete (instance? : Option RoleDefinition) (attrs : RoleAttrs) :
    ((attrs.content_type.join = none ∧ ∃ p ∈ attrs.permissions.getD [], p.service ≠ "galaxy") ↔
      BreaksRule (resulting instance? attrs).1 (resulting instance? attrs).2) ↔
      Complete instance? attrs := by
  obtain ⟨name, description, content_type, permissions⟩ := attrs
  unfold BreaksRule resulting Complete
  cases instance? with
  | none =>
      -- On a create an absent attribute is null, or empty, in the role too.
      cases content_type <;> cases permissions <;> simp
  | some role =>
      cases content_type with
      | none =>
          cases permissions with
          | none =>
              have hsplit := @imp_iff_not_or (role.content_type = none)
                (∀ p ∈ role.permissions, p.service = "galaxy")
              simpa using hsplit
          | some permissions =>
              -- The absent content type counts as null, whatever the role has.
              have hsplit := @and_iff_right_iff (role.content_type = none)
                (∃ p ∈ permissions, p.service ≠ "galaxy")
              push Not at hsplit
              simpa using hsplit
      | some content_type =>
          cases permissions with
          | none =>
              have hsplit := @imp_iff_not_or (content_type = none)
                (∀ p ∈ role.permissions, p.service = "galaxy")
              simpa using hsplit
          | some permissions => simp

/-- The validation raises its error for exactly the requests that would leave a system role with a
permission of another service, if and only if the request leaves out nothing that makes a
difference; or the base class refuses a request that would not leave such a role. -/
theorem galaxyOnly_iff (refuses : Option RoleDefinition → RoleAttrs → Option ε)
    (instance? : Option RoleDefinition) (attrs : RoleAttrs) :
    (RaisesGalaxyOnly refuses instance? attrs ↔
      BreaksRule (resulting instance? attrs).1 (resulting instance? attrs).2) ↔
      if refuses instance? attrs = none then Complete instance? attrs
      else ¬BreaksRule (resulting instance? attrs).1 (resulting instance? attrs).2 := by
  cases h : refuses instance? attrs with
  | none =>
      rw [if_pos rfl, raisesGalaxyOnly_iff h]
      exact reads_iff_complete instance? attrs
  | some error =>
      -- The validation of this class is not reached.
      have hnot : ¬RaisesGalaxyOnly refuses instance? attrs := by
        rintro ⟨message, hmessage⟩
        rw [validate, h] at hmessage
        cases hmessage
      rw [if_neg (Option.some_ne_none error), iff_false_left hnot]

/-- The permission to view the projects of the controller. -/
def viewProject : Permission where
  codename := "view_project"
  content_type := ⟨"controller", "project"⟩

/-- A role on projects of the controller. -/
def projectViewer : RoleDefinition where
  pk := 1
  name := "Project viewer"
  description := ""
  content_type := some ⟨"controller", "project"⟩
  managed := false
  permissions := {viewProject}

/-- A `PATCH` of the permissions of an object role is taken for one of a system role. -/
theorem not_galaxyOnly_patch :
    RaisesGalaxyOnly (fun _ _ => (none : Option Unit)) (some projectViewer)
        ⟨none, none, none, some [viewProject]⟩ ∧
      ¬BreaksRule (resulting (some projectViewer) ⟨none, none, none, some [viewProject]⟩).1
        (resulting (some projectViewer) ⟨none, none, none, some [viewProject]⟩).2 := by
  constructor
  · exact ⟨_, rfl⟩
  · rintro ⟨hnull, -⟩
    cases hnull

end Validate

end AapGateway.Roles
