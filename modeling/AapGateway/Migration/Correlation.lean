import AapGateway.Foundations.Grouping
import AapGateway.Foundations.Text
import AapGateway.Migration.MergeGroups

/-!
# Correlating users across services

`_merge_partially_migrated_users` collects the users whose resources still belong to a service,
sorts them by the type of the service, and correlates them: accounts whose usernames are the same
after a known prefix is removed represent the same person. The services are read in a fixed order,
so the first account of a group is the one of the earliest service. Each group is merged, and at the
end the number of merged accounts is compared with the number of users.

The prefixes are `galaxy_` and `eda_`, which the migration to 2.5 puts before a username of the hub
or of EDA that is already taken. They are removed whatever the service is, and also where they were
not put before a taken name, so a group can hold accounts of different persons.

## Main definitions

* `correlateUsersAcrossServices`: the groups of the accounts;
* `mergeUsers`: the whole of `_merge_partially_migrated_users`;
* `Correlated`: the groups are a partition, and the earliest service comes first;
* `SamePerson`: each account is in the group of the name it had before the migration.

## Main results

* `correlated_and_merged`: the correlation is a partition, and when every group is merged all users
  are counted;
* `samePerson_iff`: the usernames for which the groups hold accounts of one person.
-/

namespace AapGateway.Migration

/-- `SERVICE_TYPE_ORDER`. -/
def serviceTypeOrder : List String :=
  ["controller", "hub", "eda", "metrics"]

/-- The prefixes that may be added during the migration to 2.5. -/
def servicePrefixes : List String :=
  ["galaxy_", "eda_"]

/-- The username without the first known prefix that it starts with. -/
def baseUsername (username : String) : String :=
  match servicePrefixes.find? (Text.startsWith username) with
  | some pre => String.ofList (username.toList.drop pre.length)
  | none => username

/-- An account in a group: the type of its service, the user, and its original username. -/
structure CorrelatedAccount (α : Type) where
  serviceType : String
  user : α
  username : String
  deriving DecidableEq, Repr

section Correlate

variable {α : Type}

/-- The accounts of a service type. -/
def accountsOf (serviceType : String) (users : List (String × α)) : List (CorrelatedAccount α) :=
  users.map fun u => ⟨serviceType, u.2, u.1⟩

/-- `_correlate_users_across_services`. -/
def correlateUsersAcrossServices (allUsers : Dict (List (String × α))) :
    Dict (List (CorrelatedAccount α)) :=
  serviceTypeOrder.foldl (fun userGroups serviceType =>
    match allUsers.get? serviceType with
    | none => userGroups -- `if service_type not in all_users: continue`
    | some users =>
      users.foldl (fun userGroups u =>
        userGroups.append (baseUsername u.1) ⟨serviceType, u.2, u.1⟩) userGroups) Dict.empty

/-- All accounts of a dictionary of users. -/
def allAccounts (allUsers : Dict (List (String × α))) : List (CorrelatedAccount α) :=
  allUsers.items.flatMap fun item => accountsOf item.1 item.2

/-- The accounts in the order in which they are correlated. -/
def orderedAccounts (allUsers : Dict (List (String × α))) : List (CorrelatedAccount α) :=
  serviceTypeOrder.flatMap fun serviceType =>
    (allUsers.get? serviceType).elim [] (accountsOf serviceType)

/-- The correlation groups the accounts by their base usernames. -/
theorem items_correlateUsersAcrossServices (allUsers : Dict (List (String × α))) :
    (correlateUsersAcrossServices allUsers).items =
      Grouping.group (fun a => baseUsername a.username) (orderedAccounts allUsers) := by
  rw [← Dict.items_foldl_append, orderedAccounts, List.foldl_flatMap]
  unfold correlateUsersAcrossServices
  congr 3
  -- One round of the outer loop adds the accounts of one service type.
  funext userGroups serviceType
  cases allUsers.get? serviceType with
  | none => rfl
  | some users =>
      show _ = (accountsOf serviceType users).foldl _ userGroups
      rw [accountsOf, List.foldl_map]

/-- The accounts of a group. -/
theorem mem_correlateUsersAcrossServices {allUsers : Dict (List (String × α))} {base : String}
    {accounts : List (CorrelatedAccount α)} :
    (base, accounts) ∈ (correlateUsersAcrossServices allUsers).items ↔
      accounts = (orderedAccounts allUsers).filter (fun a => baseUsername a.username = base) ∧
        accounts ≠ [] := by
  rw [items_correlateUsersAcrossServices]
  exact Grouping.mem_group_iff

/-- The groups are a partition of the accounts: every account is in one group and once, no group is
empty, and the first account of a group comes from the earliest service type in it. -/
structure Correlated (allUsers : Dict (List (String × α)))
    (userGroups : Dict (List (CorrelatedAccount α))) : Prop where
  perm : (userGroups.items.flatMap Prod.snd).Perm (allAccounts allUsers)
  once : ∀ a ∈ allAccounts allUsers, ∃! G, G ∈ userGroups.items ∧ a ∈ G.2
  nonempty : ∀ G ∈ userGroups.items, G.2 ≠ []
  earliest : ∀ G ∈ userGroups.items, ∀ first rest, G.2 = first :: rest → ∀ a ∈ rest,
    serviceTypeOrder.idxOf first.serviceType ≤ serviceTypeOrder.idxOf a.serviceType

/-- The accounts are read in the order of their service types. -/
theorem pairwise_orderedAccounts (allUsers : Dict (List (String × α))) :
    (orderedAccounts allUsers).Pairwise fun a b =>
      serviceTypeOrder.idxOf a.serviceType ≤ serviceTypeOrder.idxOf b.serviceType := by
  have htype : ∀ serviceType, ∀ a ∈ (allUsers.get? serviceType).elim [] (accountsOf serviceType),
      a.serviceType = serviceType := by
    intro serviceType a ha
    cases hget : allUsers.get? serviceType with
    | none =>
        rw [hget] at ha
        cases ha
    | some users =>
        rw [hget] at ha
        obtain ⟨u, -, rfl⟩ := List.mem_map.mp ha
        rfl
  have horder : serviceTypeOrder.Pairwise fun s t =>
      serviceTypeOrder.idxOf s ≤ serviceTypeOrder.idxOf t := by decide
  rw [orderedAccounts, List.pairwise_flatMap]
  constructor
  · intro serviceType _
    refine List.pairwise_of_forall_mem_list fun a ha b hb => ?_
    rw [htype serviceType a ha, htype serviceType b hb]
  · -- The accounts of different types are ordered as the types are.
    refine horder.imp fun {s t} hle a ha b hb => ?_
    rw [htype s a ha, htype t b hb]
    exact hle

/-- The accounts that are read are all accounts, when every service type is known. -/
theorem perm_orderedAccounts {allUsers : Dict (List (String × α))}
    (hknown : ∀ item ∈ allUsers.items, item.1 ∈ serviceTypeOrder) :
    (orderedAccounts allUsers).Perm (allAccounts allUsers) :=
  allUsers.perm_flatMap_order accountsOf (by decide) hknown

/-- The correlation is a partition. -/
theorem correlated {allUsers : Dict (List (String × α))}
    (hknown : ∀ item ∈ allUsers.items, item.1 ∈ serviceTypeOrder) :
    Correlated allUsers (correlateUsersAcrossServices allUsers) where
  perm := by
    rw [items_correlateUsersAcrossServices]
    exact (Grouping.perm_flatMap_group _ _).trans (perm_orderedAccounts hknown)
  once := by
    intro a ha
    have hmem : a ∈ orderedAccounts allUsers := (perm_orderedAccounts hknown).mem_iff.mpr ha
    have hgroup : a ∈ (orderedAccounts allUsers).filter
        (fun b => baseUsername b.username = baseUsername a.username) :=
      List.mem_filter.mpr ⟨hmem, decide_eq_true rfl⟩
    refine ⟨(baseUsername a.username, _),
      ⟨mem_correlateUsersAcrossServices.mpr ⟨rfl, List.ne_nil_of_mem hgroup⟩, hgroup⟩, ?_⟩
    -- Another group with the account has the same base username, hence the same accounts.
    rintro ⟨base, accounts⟩ ⟨hG, haG⟩
    obtain ⟨rfl, -⟩ := mem_correlateUsersAcrossServices.mp hG
    rw [← of_decide_eq_true (List.mem_filter.mp haG).2]
  nonempty := by
    rintro ⟨base, accounts⟩ hG
    exact (mem_correlateUsersAcrossServices.mp hG).2
  earliest := by
    rintro ⟨base, accounts⟩ hG first rest hcons a ha
    obtain ⟨rfl, -⟩ := mem_correlateUsersAcrossServices.mp hG
    have hpairwise := (pairwise_orderedAccounts allUsers).filter
      (fun a => baseUsername a.username = base)
    dsimp only at hcons
    -- A group keeps the order in which the accounts were read.
    rw [hcons] at hpairwise
    exact List.rel_of_pairwise_cons hpairwise ha

end Correlate

/-! ## Merging all users -/

/-- The service of an API route, as far as its users are concerned: the id of its registry, which is
null before the first contact, and its type. -/
structure ServiceApi where
  serviceId : Option String
  serviceType : String
  deriving DecidableEq, Repr

/-- How `_merge_partially_migrated_users` raises. -/
inductive MergeUsersError where
  /-- `AttributeError` for a resource without a user. -/
  | noContentObject
  /-- `RuntimeError` for a service that is not among the given ones. -/
  | unknownServiceId (message : String)
  /-- An error while the groups are merged, or the one at the end. -/
  | merge (e : MergeError)
  deriving DecidableEq, Repr

/-- The text of the error for a service that is not among the given ones. -/
def unknownServiceIdText (serviceId username : String) : String :=
  "Unknown service_id " ++ serviceId ++ " for user " ++ username

/-- `service_id_to_type`. -/
def serviceIdToType (serviceApis : List ServiceApi) : List (Option String × String) :=
  serviceApis.foldl (fun d api => Table.upsert Prod.fst (api.serviceId, api.serviceType) d) []

/-- The empty lists of the service types. -/
def noUsers (serviceTypes : List String) : Dict (List (String × GatewayUser)) :=
  serviceTypes.foldl (fun d serviceType => d.set serviceType []) Dict.empty

/-- The loop that puts each user into the list of its service type. -/
def groupByServiceType (typeOf : List (Option String × String)) (users : List GatewayUser) :
    List UserResource → Dict (List (String × GatewayUser)) →
      Except MergeUsersError (Dict (List (String × GatewayUser)))
  | [], allUsers => .ok allUsers
  | resource :: resources, allUsers =>
    match users.find? (·.pk = resource.user) with
    | none => .error .noContentObject
    | some user =>
      match (typeOf.find? (·.1 = some resource.serviceId)).map Prod.snd with
      -- `if service_type` fails for an unknown service and for an empty type.
      | none | some "" =>
        .error (.unknownServiceId (unknownServiceIdText resource.serviceId user.username))
      | some serviceType =>
        groupByServiceType typeOf users resources
          (allUsers.append serviceType (user.username, user))

/-- The resources of partially migrated users. -/
def partiallyMigratedResources (w : MergeState) : List UserResource :=
  w.resources.filter fun r => r.serviceId ≠ w.gateway.serviceId

/-- `all_users`: the users of each service type. -/
def allUsersOf (serviceApis : List ServiceApi) (w : MergeState) :
    Except MergeUsersError (Dict (List (String × GatewayUser))) :=
  groupByServiceType (serviceIdToType serviceApis) w.gateway.users (partiallyMigratedResources w)
    (noUsers ((serviceIdToType serviceApis).map Prod.snd))

/-- The first account of a group is the main one. -/
def userGroup? : List (CorrelatedAccount GatewayUser) → Option UserGroup
  | [] => none
  | main :: others => some ⟨main.user, others.map CorrelatedAccount.user⟩

/-- The groups that are merged. -/
def userGroups (allUsers : Dict (List (String × GatewayUser))) : List UserGroup :=
  (correlateUsersAcrossServices allUsers).items.filterMap fun G => userGroup? G.2

/-- `_merge_partially_migrated_users`. -/
def mergeUsers (env : MergeEnv) (serviceApis : List ServiceApi) (w : MergeState) :
    MergeState × Except MergeUsersError Unit :=
  let resources := partiallyMigratedResources w
  if resources = [] then (w, .ok ())
  else
    match allUsersOf serviceApis w with
    | .error e => (w, .error e)
    | .ok allUsers =>
      match mergePartiallyMigratedUsers env resources.length (userGroups allUsers) 0 w with
      | (w', .error e) => (w', .error (.merge e))
      | (w', .ok _) => (w', .ok ())

section Count

variable (env : MergeEnv)

/-- The loop over the groups, with the total that it computes. -/
def mergeGroups : List UserGroup → ℕ → MergeState → MergeResult ℕ
  | [], merged, w => (w, .ok merged)
  | G :: groups, merged, w =>
    match mergeUserGroup env w G with
    | (w', .error e) => (w', .error e)
    | (w', .ok n) => mergeGroups groups (merged + n) w'

/-- Every group is merged: there is no conflict, and nothing raises. -/
def MergesAll : List UserGroup → MergeState → Prop
  | [], _ => True
  | G :: groups, w =>
    mergeConflicts env.serviceTypeName w.gateway G.main G.others = .ok [] ∧
      ∃ n w', mergeUserGroup env w G = (w', .ok n) ∧ MergesAll groups w'

variable {env}

/-- The final comparison is with the total of the loop. -/
theorem mergePartiallyMigratedUsers_eq (total merged : ℕ) (groups : List UserGroup)
    (w : MergeState) :
    mergePartiallyMigratedUsers env total groups merged w =
      match mergeGroups env groups merged w with
      | (w', .error e) => (w', .error e)
      | (w', .ok n) =>
        if n ≠ total then (w', .error (.notAllMerged (notAllMergedText n total)))
        else (w', .ok ()) := by
  induction groups generalizing merged w with
  | nil => rfl
  | cons G groups ih =>
      rw [mergePartiallyMigratedUsers, mergeGroups]
      rcases hG : mergeUserGroup env w G with ⟨w', e | n⟩
      · rfl
      · exact ih (merged + n) w'

/-- A group without conflicts counts all its accounts. -/
theorem length_of_mergeUserGroup {w w' : MergeState} {G : UserGroup} {n : ℕ}
    (hconflicts : mergeConflicts env.serviceTypeName w.gateway G.main G.others = .ok [])
    (h : mergeUserGroup env w G = (w', .ok n)) : n = G.accounts.length := by
  rw [mergeUserGroup, hconflicts] at h
  dsimp only at h
  rw [if_neg (not_not.mpr rfl)] at h
  split at h
  · cases h
  · split at h
    · cases h
    · cases h
      rfl

/-- When every group is merged, all accounts are counted. -/
theorem mergeGroups_of_mergesAll {groups : List UserGroup} {w : MergeState}
    (h : MergesAll env groups w) (merged : ℕ) :
    ∃ w', mergeGroups env groups merged w =
      (w', .ok (merged + (groups.flatMap UserGroup.accounts).length)) := by
  induction groups generalizing merged w with
  | nil => exact ⟨w, rfl⟩
  | cons G groups ih =>
      obtain ⟨hconflicts, n, w', hG, hrest⟩ := h
      obtain ⟨w'', hgroups⟩ := ih hrest (merged + n)
      refine ⟨w'', ?_⟩
      rw [mergeGroups, hG, List.flatMap_cons, List.length_append,
        ← length_of_mergeUserGroup hconflicts hG, ← add_assoc]
      exact hgroups

/-- The groups that are merged hold all accounts of the correlation. -/
theorem length_accounts_userGroups (allUsers : Dict (List (String × GatewayUser))) :
    ((userGroups allUsers).flatMap UserGroup.accounts).length =
      ((correlateUsersAcrossServices allUsers).items.flatMap Prod.snd).length := by
  unfold userGroups
  induction (correlateUsersAcrossServices allUsers).items with
  | nil => rfl
  | cons G groups ih =>
      obtain ⟨base, accounts⟩ := G
      cases accounts with
      | nil => exact ih -- Not a group that is merged, and without accounts.
      | cons main others =>
          show (UserGroup.accounts ⟨main.user, others.map CorrelatedAccount.user⟩ ++
            (groups.filterMap fun G => userGroup? G.2).flatMap UserGroup.accounts).length = _
          rw [List.length_append, ih, List.flatMap_cons, List.length_append, UserGroup.accounts,
            List.length_cons, List.length_map, List.length_cons]

end Count

/-- Every user that is put into a list is one more account. -/
theorem length_allAccounts_append {α : Type} (allUsers : Dict (List (String × α)))
    (serviceType : String) (u : String × α) :
    (allAccounts (allUsers.append serviceType u)).length = (allAccounts allUsers).length + 1 := by
  have hlength : ∀ d : Dict (List (String × α)),
      (allAccounts d).length = (d.items.flatMap Prod.snd).length := by
    intro d
    simp [allAccounts, accountsOf, List.length_flatMap]
  rw [hlength, hlength]
  show ((Grouping.add serviceType u allUsers.items).flatMap Prod.snd).length = _
  rw [Grouping.perm_flatMap_add.length_eq, List.length_append]
  rfl

section Totals

variable {typeOf : List (Option String × String)} {users : List GatewayUser}
  {resources : List UserResource} {d d' : Dict (List (String × GatewayUser))}

/-- The lists hold one account for each resource, of the types of the services. -/
theorem of_groupByServiceType (htypes : ∀ s ∈ typeOf, s.2 ∈ serviceTypeOrder)
    (hd : ∀ item ∈ d.items, item.1 ∈ serviceTypeOrder)
    (h : groupByServiceType typeOf users resources d = .ok d') :
    (allAccounts d').length = (allAccounts d).length + resources.length ∧
      ∀ item ∈ d'.items, item.1 ∈ serviceTypeOrder := by
  induction resources generalizing d with
  | nil =>
      cases h
      exact ⟨rfl, hd⟩
  | cons resource resources ih =>
      rw [groupByServiceType] at h
      split at h
      · cases h
      · split at h
        · cases h
        · cases h
        · -- The user is put into the list of a type that some service has.
          rename_i user _ _ serviceType _ htype
          obtain ⟨s, hs, rfl⟩ := Option.map_eq_some_iff.mp htype
          have hknown : s.2 ∈ serviceTypeOrder := htypes s (List.mem_of_find?_eq_some hs)
          have hd' : ∀ item ∈ (d.append s.2 (user.username, user)).items,
              item.1 ∈ serviceTypeOrder := by
            intro item hitem
            rcases Grouping.mem_map_fst_add.mp (List.mem_map_of_mem hitem) with hkey | hkey
            · exact hkey ▸ hknown
            · obtain ⟨item', hitem', heq⟩ := List.mem_map.mp hkey
              exact heq ▸ hd item' hitem'
          obtain ⟨hlength, hkeys⟩ := ih hd' h
          refine ⟨?_, hkeys⟩
          rw [hlength, length_allAccounts_append, List.length_cons, add_assoc, add_comm 1]

end Totals

/-- The types of the services. -/
theorem mem_serviceIdToType {serviceApis : List ServiceApi} {s : Option String × String}
    (h : s ∈ serviceIdToType serviceApis) : ∃ api ∈ serviceApis, api.serviceType = s.2 := by
  unfold serviceIdToType at h
  -- From the last service on, since it is the one that was written last.
  induction serviceApis using List.reverseRecOn with
  | nil => cases h
  | append_singleton serviceApis api ih =>
      rw [List.foldl_append] at h
      rcases Table.mem_upsert.mp h with rfl | ⟨h, -⟩
      · exact ⟨api, List.mem_append_right _ (List.mem_singleton_self _), rfl⟩
      · obtain ⟨api', hmem, htype⟩ := ih h
        exact ⟨api', List.mem_append_left _ hmem, htype⟩

/-- The lists of the service types are empty at first. -/
theorem mem_noUsers {serviceTypes : List String} {item : String × List (String × GatewayUser)}
    (h : item ∈ (noUsers serviceTypes).items) : item.1 ∈ serviceTypes ∧ item.2 = [] := by
  unfold noUsers at h
  induction serviceTypes using List.reverseRecOn with
  | nil => cases h
  | append_singleton serviceTypes serviceType ih =>
      rw [List.foldl_append] at h
      rcases Table.mem_upsert.mp h with rfl | ⟨h, -⟩
      · exact ⟨List.mem_append_right _ (List.mem_singleton_self _), rfl⟩
      · exact ⟨List.mem_append_left _ (ih h).1, (ih h).2⟩

/-- The accounts of the users are as many as the resources, of the types of the services. -/
theorem of_allUsersOf {serviceApis : List ServiceApi} {w : MergeState}
    {allUsers : Dict (List (String × GatewayUser))}
    (htypes : ∀ api ∈ serviceApis, api.serviceType ∈ serviceTypeOrder)
    (h : allUsersOf serviceApis w = .ok allUsers) :
    (allAccounts allUsers).length = (partiallyMigratedResources w).length ∧
      ∀ item ∈ allUsers.items, item.1 ∈ serviceTypeOrder := by
  have htypeOf : ∀ s ∈ serviceIdToType serviceApis, s.2 ∈ serviceTypeOrder := by
    intro s hs
    obtain ⟨api, hapi, htype⟩ := mem_serviceIdToType hs
    exact htype ▸ htypes api hapi
  have hempty : allAccounts (noUsers ((serviceIdToType serviceApis).map Prod.snd)) = [] := by
    refine List.flatMap_eq_nil_iff.mpr fun item hitem => ?_
    rw [(mem_noUsers hitem).2]
    rfl
  have hkeys : ∀ item ∈ (noUsers ((serviceIdToType serviceApis).map Prod.snd)).items,
      item.1 ∈ serviceTypeOrder := by
    intro item hitem
    obtain ⟨s, hs, heq⟩ := List.mem_map.mp (mem_noUsers hitem).1
    exact heq ▸ htypeOf s hs
  obtain ⟨hlength, hkeys'⟩ := of_groupByServiceType htypeOf hkeys h
  rw [hempty, List.length_nil, zero_add] at hlength
  exact ⟨hlength, hkeys'⟩

/-- The correlation is a partition of the accounts; and when every group is merged, the total is
the number of partially migrated users, and `_merge_partially_migrated_users` does not raise. -/
theorem correlated_and_merged :
    (∀ (α : Type) (allUsers : Dict (List (String × α))),
        (∀ item ∈ allUsers.items, item.1 ∈ serviceTypeOrder) →
          Correlated allUsers (correlateUsersAcrossServices allUsers)) ∧
      ∀ (env : MergeEnv) (serviceApis : List ServiceApi) (w : MergeState)
        (allUsers : Dict (List (String × GatewayUser))),
        (∀ api ∈ serviceApis, api.serviceType ∈ serviceTypeOrder) →
        allUsersOf serviceApis w = .ok allUsers → MergesAll env (userGroups allUsers) w →
          ∃ w', mergeGroups env (userGroups allUsers) 0 w =
              (w', .ok (partiallyMigratedResources w).length) ∧
            mergeUsers env serviceApis w = (w', .ok ()) := by
  refine ⟨fun α allUsers hknown => correlated hknown, ?_⟩
  intro env serviceApis w allUsers htypes hallUsers hmerges
  obtain ⟨hlength, hknown⟩ := of_allUsersOf htypes hallUsers
  have htotal : ((userGroups allUsers).flatMap UserGroup.accounts).length =
      (partiallyMigratedResources w).length := by
    rw [length_accounts_userGroups, (correlated hknown).perm.length_eq, hlength]
  obtain ⟨w', hgroups⟩ := mergeGroups_of_mergesAll hmerges 0
  rw [zero_add, htotal] at hgroups
  refine ⟨w', hgroups, ?_⟩
  unfold mergeUsers
  dsimp only
  split
  · -- Without partially migrated users there are no groups, and nothing happens.
    rename_i hnone
    rw [hnone, List.length_nil] at htotal hgroups
    have hnil : userGroups allUsers = [] := by
      rw [List.eq_nil_iff_forall_not_mem]
      intro G hG
      have haccounts := List.flatMap_eq_nil_iff.mp (List.eq_nil_of_length_eq_zero htotal) G hG
      cases haccounts
    rw [hnil] at hgroups
    have hsame : w = w' := congrArg Prod.fst hgroups
    rw [hsame]
  · -- The total is the number of resources, so the check at the end passes.
    rw [hallUsers]
    dsimp only
    rw [mergePartiallyMigratedUsers_eq, hgroups]
    dsimp only
    rw [if_neg (not_not.mpr rfl)]

/-- A user of the controller and one of EDA, before the merge. -/
def twoUsers : MergeState where
  gateway :=
    { serviceId := "gateway"
      users := [controllerUser, edaUser]
      originalAccounts := [(10, 1), (12, 3)]
      authenticatorUsers := [] }
  resources := [⟨10, "id-1", true⟩, ⟨12, "id-3", true⟩]
  sent := []

/-- The API routes of the two services. -/
def twoServiceApis : List ServiceApi :=
  [⟨some "id-1", "controller"⟩, ⟨some "id-3", "eda"⟩]

/-- The users of the two services by service type. -/
def twoServiceUsers : Dict (List (String × GatewayUser)) where
  items := [("controller", [("bob", controllerUser)]), ("eda", [("eda_bob", edaUser)])]
  nodup := by decide

/-- The two users are one person and are merged. -/
theorem correlated_and_merged_twoUsers :
    Correlated twoServiceUsers (correlateUsersAcrossServices twoServiceUsers) ∧
      ∃ w', mergeGroups workingServices (userGroups twoServiceUsers) 0 twoUsers =
          (w', .ok (partiallyMigratedResources twoUsers).length) ∧
        mergeUsers workingServices twoServiceApis twoUsers = (w', .ok ()) :=
  ⟨correlated_and_merged.1 GatewayUser twoServiceUsers (by decide),
    correlated_and_merged.2 workingServices twoServiceApis twoUsers twoServiceUsers (by decide)
      rfl ⟨rfl, _, _, rfl, trivial⟩⟩

/-! ## Accounts of one person -/

/-- The prefix that the migration to 2.5 adds for a service type. -/
def migrationPrefix (serviceType : String) : Option String :=
  if serviceType = "hub" then some "galaxy_"
  else if serviceType = "eda" then some "eda_"
  else none

/-- The username has a known prefix. -/
def Prefixed (username : String) : Prop :=
  ∃ pre ∈ servicePrefixes, Text.startsWith username pre = true

section Persons

variable {α : Type}

/-- Each account is in the group of its own name, or of the name to which the migration added the
prefix of its service; and a group holds one username of each service. -/
structure SamePerson (userGroups : Dict (List (CorrelatedAccount α))) : Prop where
  base : ∀ G ∈ userGroups.items, ∀ a ∈ G.2, a.username = G.1 ∨
    ∃ pre, migrationPrefix a.serviceType = some pre ∧ a.username = pre ++ G.1
  unique : ∀ G ∈ userGroups.items, ∀ a ∈ G.2, ∀ b ∈ G.2, a.serviceType = b.serviceType →
    a.username = b.username

/-- A username with a known prefix is one of the service that adds this prefix, and does not occur
in the service without the prefix too. -/
structure OwnPrefixes (accounts : List (CorrelatedAccount α)) : Prop where
  own : ∀ a ∈ accounts, ∀ pre ∈ servicePrefixes, Text.startsWith a.username pre = true →
    migrationPrefix a.serviceType = some pre
  apart : ∀ a ∈ accounts, ∀ b ∈ accounts, a.serviceType = b.serviceType → ¬Prefixed a.username →
    ∀ pre, migrationPrefix a.serviceType = some pre → b.username ≠ pre ++ a.username

/-- A username starts with a prefix exactly when it is the prefix and a rest. -/
theorem startsWith_iff {username pre : String} :
    Text.startsWith username pre = true ↔ ∃ rest, username = pre ++ rest := by
  unfold Text.startsWith
  rw [List.isPrefixOf_iff_prefix]
  constructor
  · rintro ⟨rest, hrest⟩
    refine ⟨String.ofList rest, Text.toList_injective ?_⟩
    rw [String.toList_append, String.toList_ofList, hrest]
  · rintro ⟨rest, rfl⟩
    rw [String.toList_append]
    exact List.prefix_append ..

/-- A name is not the same with a prefix. -/
theorem append_ne_self {pre : String} (hpre : pre ≠ "") (name : String) : pre ++ name ≠ name := by
  intro h
  have hlength := congrArg (fun s : String => s.toList.length) h
  simp only [String.toList_append, List.length_append, Nat.add_eq_right,
    List.length_eq_zero_iff] at hlength
  exact hpre (Text.toList_injective hlength)

/-- The known prefixes are not empty. -/
theorem ne_empty_of_mem_servicePrefixes {pre : String} (h : pre ∈ servicePrefixes) : pre ≠ "" := by
  rintro rfl
  exact absurd h (by decide)

/-- The prefixes that the migration adds are known. -/
theorem mem_servicePrefixes_of_migrationPrefix {serviceType pre : String}
    (h : migrationPrefix serviceType = some pre) : pre ∈ servicePrefixes := by
  unfold migrationPrefix at h
  split at h
  · cases h
    decide
  · split at h
    · cases h
      decide
    · cases h

/-- No username has two of the prefixes. -/
theorem eq_of_startsWith {username pre pre' : String} (hpre : pre ∈ servicePrefixes)
    (hpre' : pre' ∈ servicePrefixes) (h : Text.startsWith username pre = true)
    (h' : Text.startsWith username pre' = true) : pre = pre' := by
  have hcomparable := List.prefix_or_prefix_of_prefix (List.isPrefixOf_iff_prefix.mp h)
    (List.isPrefixOf_iff_prefix.mp h')
  have hapart : ∀ p ∈ servicePrefixes, ∀ q ∈ servicePrefixes,
      p.toList <+: q.toList ∨ q.toList <+: p.toList → p = q := by decide
  exact hapart pre hpre pre' hpre' hcomparable

/-- The base of a username: what follows its prefix, or the username itself. -/
theorem baseUsername_cases (username : String) :
    (∃ pre ∈ servicePrefixes, Text.startsWith username pre = true ∧
        username = pre ++ baseUsername username) ∨
      ¬Prefixed username ∧ baseUsername username = username := by
  unfold baseUsername
  cases hfind : servicePrefixes.find? (Text.startsWith username) with
  | none =>
      refine Or.inr ⟨?_, rfl⟩
      rintro ⟨pre, hpre, hstarts⟩
      exact List.find?_eq_none.mp hfind pre hpre hstarts
  | some pre =>
      have hstarts := List.find?_some hfind
      refine Or.inl ⟨pre, List.mem_of_find?_eq_some hfind, hstarts, ?_⟩
      obtain ⟨rest, rfl⟩ := startsWith_iff.mp hstarts
      dsimp only
      rw [String.toList_append, ← String.length_toList, List.drop_left, String.ofList_toList]

/-- What follows the known prefix of a username is its base. -/
theorem baseUsername_append {pre : String} (hpre : pre ∈ servicePrefixes) (name : String) :
    baseUsername (pre ++ name) = name := by
  have hstarts : Text.startsWith (pre ++ name) pre = true := startsWith_iff.mpr ⟨name, rfl⟩
  rcases baseUsername_cases (pre ++ name) with ⟨pre', hpre', hstarts', heq⟩ | ⟨hnot, -⟩
  · obtain rfl := eq_of_startsWith hpre hpre' hstarts hstarts'
    exact (String.append_right_inj _ |>.mp heq).symm
  · exact absurd ⟨pre, hpre, hstarts⟩ hnot

/-- The base of a username without a known prefix. -/
theorem baseUsername_of_not_prefixed {username : String} (h : ¬Prefixed username) :
    baseUsername username = username := by
  rcases baseUsername_cases username with ⟨pre, hpre, hstarts, -⟩ | ⟨-, heq⟩
  · exact absurd ⟨pre, hpre, hstarts⟩ h
  · exact heq

/-- Accounts are in one group exactly when their usernames have one base. -/
theorem mem_group_iff {allUsers : Dict (List (String × α))}
    {G : String × List (CorrelatedAccount α)}
    (hG : G ∈ (correlateUsersAcrossServices allUsers).items) {a : CorrelatedAccount α} :
    a ∈ G.2 ↔ a ∈ orderedAccounts allUsers ∧ baseUsername a.username = G.1 := by
  obtain ⟨base, accounts⟩ := G
  rw [(mem_correlateUsersAcrossServices.mp hG).1, List.mem_filter, decide_eq_true_iff]

/-- Every account that is read is in the group of its base username. -/
theorem exists_group {allUsers : Dict (List (String × α))} {a : CorrelatedAccount α}
    (ha : a ∈ orderedAccounts allUsers) :
    ∃ G ∈ (correlateUsersAcrossServices allUsers).items, G.1 = baseUsername a.username := by
  refine ⟨(baseUsername a.username, _), mem_correlateUsersAcrossServices.mpr ⟨rfl, ?_⟩, rfl⟩
  exact List.ne_nil_of_mem (List.mem_filter.mpr ⟨ha, decide_eq_true rfl⟩)

variable {allUsers : Dict (List (String × α))}

/-- Where the groups hold accounts of one person, prefixes are those of the services. -/
theorem ownPrefixes_of_samePerson (h : SamePerson (correlateUsersAcrossServices allUsers)) :
    OwnPrefixes (orderedAccounts allUsers) where
  own := by
    intro a ha pre hpre hstarts
    obtain ⟨G, hG, hbase⟩ := exists_group ha
    obtain ⟨rest, hrest⟩ := startsWith_iff.mp hstarts
    have hrestG : rest = G.1 := by
      rw [hbase, hrest, baseUsername_append hpre]
    rcases h.base G hG a ((mem_group_iff hG).mpr ⟨ha, hbase.symm⟩) with hsame | ⟨q, hq, hsame⟩
    · -- The name of the group is shorter than the username.
      rw [hrest, ← hrestG] at hsame
      exact absurd hsame (append_ne_self (ne_empty_of_mem_servicePrefixes hpre) rest)
    · -- The prefix that the migration added is the one that was found.
      have hq' : Text.startsWith a.username q = true := startsWith_iff.mpr ⟨G.1, hsame⟩
      rw [eq_of_startsWith hpre (mem_servicePrefixes_of_migrationPrefix hq) hstarts hq']
      exact hq
  apart := by
    intro a ha b hb htype hplain pre hpre hsame
    -- The two accounts are in one group, and their usernames differ.
    obtain ⟨G, hG, hbase⟩ := exists_group ha
    have hknown := mem_servicePrefixes_of_migrationPrefix hpre
    rw [baseUsername_of_not_prefixed hplain] at hbase
    have haG : a ∈ G.2 :=
      (mem_group_iff hG).mpr ⟨ha, by rw [hbase, baseUsername_of_not_prefixed hplain]⟩
    have hbG : b ∈ G.2 :=
      (mem_group_iff hG).mpr ⟨hb, by rw [hbase, hsame, baseUsername_append hknown]⟩
    have hnames : b.username = a.username := h.unique G hG b hbG a haG htype.symm
    exact append_ne_self (ne_empty_of_mem_servicePrefixes hknown) a.username
      (hsame.symm.trans hnames)

/-- Where prefixes are those of the services, the groups hold accounts of one person. -/
theorem samePerson_of_ownPrefixes (h : OwnPrefixes (orderedAccounts allUsers)) :
    SamePerson (correlateUsersAcrossServices allUsers) where
  base := by
    intro G hG a ha
    obtain ⟨hmem, hbase⟩ := (mem_group_iff hG).mp ha
    rcases baseUsername_cases a.username with ⟨pre, hpre, hstarts, heq⟩ | ⟨-, heq⟩
    · exact Or.inr ⟨pre, h.own a hmem pre hpre hstarts, hbase ▸ heq⟩
    · exact Or.inl (heq.symm.trans hbase)
  unique := by
    intro G hG a ha b hb htype
    obtain ⟨ha, habase⟩ := (mem_group_iff hG).mp ha
    obtain ⟨hb, hbbase⟩ := (mem_group_iff hG).mp hb
    rcases baseUsername_cases a.username with ⟨pre, hpre, hstarts, heq⟩ | ⟨hplain, heq⟩ <;>
      rcases baseUsername_cases b.username with ⟨pre', hpre', hstarts', heq'⟩ | ⟨hplain', heq'⟩
    · -- Both have the prefix of their service.
      have hpres : some pre = some pre' :=
        (h.own a ha pre hpre hstarts).symm.trans (htype ▸ h.own b hb pre' hpre' hstarts')
      rw [heq, heq', habase, hbbase, Option.some.inj hpres]
    · -- One name has the prefix and the other is what follows it.
      have hown := h.own a ha pre hpre hstarts
      refine absurd ?_ (h.apart b hb a ha htype.symm hplain' pre (htype ▸ hown))
      rw [← heq', hbbase, ← habase]
      exact heq
    · -- The same the other way round.
      have hown := h.own b hb pre' hpre' hstarts'
      refine absurd ?_ (h.apart a ha b hb htype hplain pre' (htype.symm ▸ hown))
      rw [← heq, habase, ← hbbase]
      exact heq'
    · -- Both names are that of the group.
      rw [← heq, ← heq', habase, hbbase]

/-- The groups hold accounts of one person exactly when each known prefix of a username is the one
of its service, and no service has a username with and without it. -/
theorem samePerson_iff (allUsers : Dict (List (String × α))) :
    SamePerson (correlateUsersAcrossServices allUsers) ↔
      OwnPrefixes (orderedAccounts allUsers) :=
  ⟨ownPrefixes_of_samePerson, samePerson_of_ownPrefixes⟩

end Persons

/-- Two users of the controller: `bob`, and one who chose a name that starts with `eda_`. -/
def chosenName : Dict (List (String × ℕ)) where
  items := [("controller", [("bob", 1), ("eda_bob", 2)])]
  nodup := by decide

/-- The two users of the controller are in one group. -/
theorem not_samePerson_chosenName :
    ¬SamePerson (correlateUsersAcrossServices chosenName) := by
  intro h
  have hgroup : ("bob", [⟨"controller", 1, "bob"⟩, ⟨"controller", 2, "eda_bob"⟩]) ∈
      (correlateUsersAcrossServices chosenName).items := by decide
  exact absurd (h.unique _ hgroup ⟨"controller", 1, "bob"⟩ (by decide)
    ⟨"controller", 2, "eda_bob"⟩ (by decide) rfl) (by decide)

end AapGateway.Migration
