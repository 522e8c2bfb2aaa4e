import Mathlib
import AapGateway.Foundations.Paging

/-!
# Superusers after a migration

`_ensure_superuser_consistency` compares the superusers of the gateway with those of the services.
The superusers of the automation controller become superusers of the gateway. The superusers of
the automation hub and of EDA that are not superusers of the gateway are demoted there.

The superusers of the gateway are read once, at the start. The promotions come after that, so the
demotions do not see them. And of several controllers only the last one is looked at.

A call to a service that fails raises, so the calls of a run that returns normally all succeed.

## Main definitions

* `ensureSuperuserConsistency`: the check on the tables of the gateway and of the services;
* `Consistent`: the controller's superusers are superusers, and the demoted ones are not;
* `NoStaleSuperuser`: the users for which the snapshot is stale are not looked up in it.

## Main results

* `consistent_iff_noStaleSuperuser`: when the check returns normally, the two are equivalent.
-/

namespace AapGateway.Migration.Superusers

/-- A user of the gateway. Managed users are hidden from `User.objects`. -/
structure User where
  username : String
  isSuperuser : Bool
  managed : Bool
  deriving DecidableEq, Repr

/-- The table of the gateway's users, in which user names are unique. -/
structure UserTable where
  rows : List User
  nodup : (rows.map User.username).Nodup

/-- A user in a service, with the registry data of its resource. -/
structure UserResource where
  ansibleId : String
  /-- The service that owns the resource. -/
  serviceId : String
  username : String
  isSuperuser : Bool
  deriving DecidableEq, Repr

/-- A service with its users, and the page size of its lists. -/
structure ServiceApi where
  serviceType : String
  pageSize : ℕ
  users : List UserResource
  pageSize_pos : 0 < pageSize
  nodup : (users.map UserResource.ansibleId).Nodup

/-- The gateway and the services of a migration. -/
structure World where
  /-- The gateway's own `service_id()`. -/
  serviceId : String
  users : UserTable
  serviceApis : List ServiceApi

/-- `CommandError`, with the users that the message names. -/
structure CommandError where
  missingUsers : List String
  deriving DecidableEq, Repr

/-- The condition of `_get_gateway_user`. -/
def User.named (username : String) (u : User) : Bool :=
  !u.managed && u.username = username

/-- `_get_gateway_user`. -/
def getGatewayUser (users : UserTable) (username : String) : Option User :=
  users.rows.find? (User.named username)

/-- Save the user with `is_superuser` set. -/
def UserTable.promote (users : UserTable) (username : String) : UserTable where
  rows := users.rows.map fun u => if u.named username then { u with isSuperuser := true } else u
  nodup := by
    rw [List.map_map]
    convert users.nodup using 2
    funext u
    simp only [Function.comp_apply]
    split <;> rfl

/-- The user names of the gateway's superusers. -/
def UserTable.superusers (users : UserTable) : List String :=
  (users.rows.filter fun u => !u.managed && u.isSuperuser).map User.username

/-- `_collect_controller_superusers`. -/
def collectControllerSuperusers (api : ServiceApi) : List String :=
  Paging.loop (fun _ n => Paging.numbered api.pageSize api.users n)
    (fun superusers u => if u.isSuperuser then superusers ++ [u.username] else superusers)
    (api.users.length + 1) 0 []

/-- The loop over the controller's superusers that are not superusers of the gateway: promote the
ones that exist, and note the ones that are missing. -/
def promoteUsers (users : UserTable) : List String → UserTable × List String
  | [] => (users, [])
  | username :: usernames =>
    match getGatewayUser users username with
    | none =>
      -- The loop goes on, and the error comes after it.
      let (users', missing) := promoteUsers users usernames
      (users', username :: missing)
    | some _ => promoteUsers (users.promote username) usernames

/-- `_ensure_controller_gateway_superusers`. -/
def ensureControllerGatewaySuperusers (api : ServiceApi) (gatewaySuperusers : List String)
    (users : UserTable) : Except CommandError UserTable :=
  let controllerOnly :=
    (collectControllerSuperusers api).dedup.filter fun username => username ∉ gatewaySuperusers
  match promoteUsers users controllerOnly with
  | (users', []) => .ok users'
  | (_, missing) => .error ⟨missing.insertionSort (· ≤ ·)⟩

/-- The user resources of a service that the gateway owns. -/
def ServiceApi.owned (serviceId : String) (api : ServiceApi) : List UserResource :=
  api.users.filter fun u => u.serviceId = serviceId

/-- `update_resource` with new resource data. -/
def ServiceApi.updateResource (api : ServiceApi) (ansibleId username : String)
    (isSuperuser : Bool) : ServiceApi where
  serviceType := api.serviceType
  pageSize := api.pageSize
  users := api.users.map fun u =>
    if u.ansibleId = ansibleId then { u with username, isSuperuser } else u
  pageSize_pos := api.pageSize_pos
  nodup := by
    rw [List.map_map]
    convert api.nodup using 2
    funext u
    simp only [Function.comp_apply]
    split <;> rfl

/-- Demote the user in the service if it is a superuser there and not in the gateway. -/
def demote (gatewaySuperusers : List String) (api : ServiceApi) (item : UserResource) :
    ServiceApi :=
  if item.isSuperuser && item.username ∉ gatewaySuperusers then
    api.updateResource item.ansibleId item.username false
  else api

/-- `_demote_extra_superusers`. -/
def demoteExtraSuperusers (serviceId : String) (gatewaySuperusers : List String)
    (api : ServiceApi) : ServiceApi :=
  Paging.loop (fun api n => Paging.numbered api.pageSize (api.owned serviceId) n)
    (demote gatewaySuperusers) (api.users.length + 1) 0 api

/-- The service is an automation hub or EDA. -/
def ServiceApi.isHubOrEda (api : ServiceApi) : Bool :=
  api.serviceType = "hub" || api.serviceType = "eda"

/-- The controller of the loop over the services. A later one replaces an earlier one. -/
def controllerApi (serviceApis : List ServiceApi) : Option ServiceApi :=
  serviceApis.foldl (fun found api => if api.serviceType = "controller" then some api else found)
    none

/-- `_ensure_superuser_consistency`. -/
def ensureSuperuserConsistency (w : World) : Except CommandError World := do
  -- The set is read once, before the controller's superusers are promoted.
  let gatewaySuperusers := w.users.superusers
  let users ← match controllerApi w.serviceApis with
    | none => .ok w.users
    | some api => ensureControllerGatewaySuperusers api gatewaySuperusers w.users
  return {
    w with
    users
    serviceApis := w.serviceApis.map fun api =>
      if api.isHubOrEda then demoteExtraSuperusers w.serviceId gatewaySuperusers api else api }

/-- Every superuser of a hub or of EDA that the gateway owns is demoted exactly if the gateway's
user of the same name is not a superuser. -/
def DemotedIff (w' : World) (api api' : ServiceApi) : Prop :=
  api.isHubOrEda = true → ∀ u ∈ api.owned w'.serviceId, u.isSuperuser = true →
    ∃ u' ∈ api'.users, u'.ansibleId = u.ansibleId ∧
      (u'.isSuperuser = false ↔ u.username ∉ w'.users.superusers)

/-- The users of the gateway and of the services agree after the check. -/
structure Consistent (w w' : World) : Prop where
  promoted : ∀ api ∈ w.serviceApis, api.serviceType = "controller" →
    ∀ u ∈ api.users, u.isSuperuser = true → u.username ∈ w'.users.superusers
  demoted : List.Forall₂ (DemotedIff w') w.serviceApis w'.serviceApis

/-- The user is a superuser of the controller that is looked at. -/
def ControllerSuperuser (w : World) (username : String) : Prop :=
  ∃ api, controllerApi w.serviceApis = some api ∧
    ∃ u ∈ api.users, u.isSuperuser = true ∧ u.username = username

/-- No controller has a superuser that neither the gateway nor the last controller has, and no hub
or EDA has a superuser, owned by the gateway, that is one in the last controller and was not yet
one in the gateway. -/
structure NoStaleSuperuser (w : World) : Prop where
  controller : ∀ api ∈ w.serviceApis, api.serviceType = "controller" →
    ∀ u ∈ api.users, u.isSuperuser = true →
      u.username ∈ w.users.superusers ∨ ControllerSuperuser w u.username
  hubOrEda : ∀ api ∈ w.serviceApis, api.isHubOrEda = true →
    ∀ u ∈ api.owned w.serviceId, u.isSuperuser = true →
      ControllerSuperuser w u.username → u.username ∈ w.users.superusers

section Promotion

variable {users : UserTable} {username name : String}

/-- The superusers of the gateway. -/
theorem mem_superusers :
    name ∈ users.superusers ↔ ∃ u ∈ users.rows, u.named name = true ∧ u.isSuperuser = true := by
  simp only [UserTable.superusers, User.named, List.mem_map, List.mem_filter, Bool.and_eq_true,
    decide_eq_true_eq]
  constructor
  · rintro ⟨u, ⟨hu, hmanaged, hsuper⟩, hname⟩
    exact ⟨u, hu, ⟨hmanaged, hname⟩, hsuper⟩
  · rintro ⟨u, hu, ⟨hmanaged, hname⟩, hsuper⟩
    exact ⟨u, ⟨hu, hmanaged, hsuper⟩, hname⟩

/-- A user is found exactly when there is one. -/
theorem getGatewayUser_isSome_iff :
    (getGatewayUser users name).isSome = true ↔ ∃ u ∈ users.rows, u.named name = true := by
  rw [getGatewayUser, List.find?_isSome]

/-- A promotion adds the user to the superusers, if there is one. -/
theorem mem_superusers_promote :
    name ∈ (users.promote username).superusers ↔
      name ∈ users.superusers ∨
        name = username ∧ (getGatewayUser users username).isSome = true := by
  simp only [mem_superusers, getGatewayUser_isSome_iff, UserTable.promote, List.mem_map,
    exists_exists_and_eq_and]
  constructor
  · -- A superuser after the promotion is the promoted user or was one before.
    rintro ⟨u, hu, hname, hsuper⟩
    by_cases hnamed : u.named username = true
    · have heq : name = username := by
        simp only [if_pos hnamed] at hname
        simp only [User.named, Bool.and_eq_true, decide_eq_true_eq] at hname hnamed
        exact hname.2.symm.trans hnamed.2
      exact Or.inr ⟨heq, u, hu, hnamed⟩
    · rw [if_neg hnamed] at hname hsuper
      exact Or.inl ⟨u, hu, hname, hsuper⟩
  · rintro (⟨u, hu, hname, hsuper⟩ | ⟨rfl, u, hu, hnamed⟩)
    · refine ⟨u, hu, ?_, ?_⟩ <;> split <;> simp_all [User.named]
    · refine ⟨u, hu, ?_, ?_⟩ <;> simp_all [User.named]

/-- If no user is missing, the promotions add all of them to the superusers. -/
theorem mem_superusers_promoteUsers {usernames : List String}
    (hmissing : (promoteUsers users usernames).2 = []) :
    name ∈ (promoteUsers users usernames).1.superusers ↔
      name ∈ users.superusers ∨ name ∈ usernames := by
  induction usernames generalizing users with
  | nil => simp [promoteUsers]
  | cons username usernames ih =>
      cases hfound : getGatewayUser users username with
      | none => simp [promoteUsers, hfound] at hmissing
      | some u =>
          simp only [promoteUsers, hfound] at hmissing ⊢
          rw [ih hmissing, mem_superusers_promote]
          simp only [hfound, Option.isSome_some, and_true, List.mem_cons, or_assoc]

/-- One pass that collects the superusers. -/
theorem mem_foldl_collect {items : List UserResource} {superusers : List String} :
    name ∈ items.foldl
        (fun superusers u => if u.isSuperuser then superusers ++ [u.username] else superusers)
        superusers ↔
      name ∈ superusers ∨ ∃ u ∈ items, u.isSuperuser = true ∧ u.username = name := by
  induction items generalizing superusers with
  | nil => simp
  | cons u items ih =>
      rw [List.foldl_cons, ih]
      split
      · next hsuper =>
          rw [List.mem_append, List.mem_singleton, or_assoc]
          simp [hsuper, @eq_comm _ name]
      · next hsuper => simp [hsuper]

/-- The collected superusers are all the superusers of the controller. -/
theorem mem_collectControllerSuperusers {api : ServiceApi} :
    name ∈ collectControllerSuperusers api ↔
      ∃ u ∈ api.users, u.isSuperuser = true ∧ u.username = name := by
  have hpass := Paging.loop_eq_foldl (fun _ n => Paging.numbered api.pageSize api.users n)
    (fun superusers u => if u.isSuperuser then superusers ++ [u.username] else superusers)
    [] (fun _ _ => True) (fun _ _ _ => rfl) (fun _ _ _ _ _ _ => trivial)
    (api.users.length + 1) 0 [] trivial
  rw [collectControllerSuperusers, hpass,
    Paging.reading_numbered_zero api.pageSize_pos _ (Nat.le_succ _), mem_foldl_collect]
  simp

/-- A check that returns has promoted all the superusers of the controller. -/
theorem mem_superusers_of_ensureController {api : ServiceApi} {users' : UserTable}
    (h : ensureControllerGatewaySuperusers api users.superusers users = .ok users') :
    name ∈ users'.superusers ↔
      name ∈ users.superusers ∨ ∃ u ∈ api.users, u.isSuperuser = true ∧ u.username = name := by
  unfold ensureControllerGatewaySuperusers at h
  set controllerOnly := (collectControllerSuperusers api).dedup.filter
    fun username => username ∉ users.superusers with hdef
  rcases hpromote : promoteUsers users controllerOnly with ⟨promoted, _ | ⟨m, missing⟩⟩
  · simp only [hpromote, Except.ok.injEq] at h
    subst h
    have hmem : name ∈ (promoteUsers users controllerOnly).1.superusers ↔
        name ∈ users.superusers ∨ name ∈ controllerOnly :=
      mem_superusers_promoteUsers (by rw [hpromote])
    rw [hpromote] at hmem
    rw [hmem, ← mem_collectControllerSuperusers, hdef]
    simp only [List.mem_filter, List.mem_dedup, decide_eq_true_eq]
    tauto
  · simp [hpromote] at h

end Promotion

section Demotion

variable {gatewaySuperusers : List String} {serviceId : String} {api s : ServiceApi}
  {item u : UserResource}

/-- The user is demoted by the check of the item. -/
def Demotes (gatewaySuperusers : List String) (item : UserResource) : Prop :=
  item.isSuperuser = true ∧ item.username ∉ gatewaySuperusers

instance (gatewaySuperusers : List String) (item : UserResource) :
    Decidable (Demotes gatewaySuperusers item) :=
  inferInstanceAs (Decidable (_ ∧ _))

/-- What the check of one item does to the users of the service. -/
theorem demote_users :
    (demote gatewaySuperusers s item).users =
      s.users.map fun u =>
        if Demotes gatewaySuperusers item ∧ u.ansibleId = item.ansibleId then
          { u with username := item.username, isSuperuser := false }
        else u := by
  by_cases h : Demotes gatewaySuperusers item
  · have hcond : (item.isSuperuser && decide (item.username ∉ gatewaySuperusers)) = true := by
      simpa [Demotes] using h
    simp only [demote, hcond, if_true, ServiceApi.updateResource, h, true_and]
  · have hcond : ¬ (item.isSuperuser && decide (item.username ∉ gatewaySuperusers)) = true := by
      simpa [Demotes] using h
    simp only [demote, hcond, if_false, h, false_and]
    simp

/-- The check of one item keeps the page size. -/
@[simp]
theorem demote_pageSize : (demote gatewaySuperusers s item).pageSize = s.pageSize := by
  unfold demote
  split <;> rfl

/-- The check of one item keeps the owners. -/
theorem demote_owned :
    (demote gatewaySuperusers s item).owned serviceId =
      (s.owned serviceId).map fun u =>
        if Demotes gatewaySuperusers item ∧ u.ansibleId = item.ansibleId then
          { u with username := item.username, isSuperuser := false }
        else u := by
  rw [ServiceApi.owned, demote_users, List.filter_map, ServiceApi.owned]
  congr 1
  -- A demotion writes the name and the flag, and the filter reads neither.
  refine List.filter_congr fun u _ => ?_
  simp only [Function.comp_apply]
  split <;> rfl

/-- The check of one item leaves the resources with other ids alone. -/
theorem demote_owned_drop {n : ℕ} {rest : List UserResource}
    (hdrop : (s.owned serviceId).drop n = rest) (hne : ∀ u ∈ rest, u.ansibleId ≠ item.ansibleId) :
    ((demote gatewaySuperusers s item).owned serviceId).drop n = rest := by
  rw [demote_owned, ← List.map_drop, hdrop]
  calc rest.map _ = rest.map id :=
        List.map_congr_left fun u hu => if_neg fun h => hne u hu h.2
    _ = rest := List.map_id rest

/-- The checks of a page leave the resources after the page alone. -/
theorem foldl_demote_owned {n : ℕ} {items rest : List UserResource}
    (hdrop : (s.owned serviceId).drop n = rest)
    (hne : ∀ item ∈ items, ∀ u ∈ rest, u.ansibleId ≠ item.ansibleId) :
    (items.foldl (demote gatewaySuperusers) s).pageSize = s.pageSize ∧
    ((items.foldl (demote gatewaySuperusers) s).owned serviceId).length =
      (s.owned serviceId).length ∧
    ((items.foldl (demote gatewaySuperusers) s).owned serviceId).drop n = rest := by
  induction items generalizing s with
  | nil => exact ⟨rfl, rfl, hdrop⟩
  | cons item items ih =>
      have hitem : ∀ u ∈ rest, u.ansibleId ≠ item.ansibleId := hne item List.mem_cons_self
      obtain ⟨hsize, hlength, hrest⟩ := ih
        (s := demote gatewaySuperusers s item) (demote_owned_drop hdrop hitem)
        fun item' hitem' => hne item' (List.mem_cons_of_mem item hitem')
      refine ⟨hsize.trans demote_pageSize, ?_, hrest⟩
      rw [List.foldl_cons, hlength, demote_owned, List.length_map]

/-- The ids of the resources that the gateway owns are distinct. -/
theorem ServiceApi.nodup_owned (api : ServiceApi) (serviceId : String) :
    ((api.owned serviceId).map UserResource.ansibleId).Nodup :=
  api.nodup.sublist (List.filter_sublist.map UserResource.ansibleId)

/-- The loop over the pages is one pass over the resources that the gateway owns. -/
theorem demoteExtraSuperusers_eq_foldl :
    demoteExtraSuperusers serviceId gatewaySuperusers api =
      (api.owned serviceId).foldl (demote gatewaySuperusers) api := by
  have hpass := Paging.loop_eq_foldl
    (fun api n => Paging.numbered api.pageSize (api.owned serviceId) n)
    (demote gatewaySuperusers) api
    (fun n s => s.pageSize = api.pageSize ∧
      (s.owned serviceId).length = (api.owned serviceId).length ∧
      (s.owned serviceId).drop (n * api.pageSize) = (api.owned serviceId).drop (n * api.pageSize))
    ?_ ?_ (api.users.length + 1) 0 api ⟨rfl, rfl, rfl⟩
  · rw [demoteExtraSuperusers, hpass, Paging.reading_numbered_zero api.pageSize_pos]
    exact (List.length_filter_le _ _).trans (Nat.le_succ _)
  · rintro n s ⟨hsize, hlength, hdrop⟩
    rw [hsize]
    exact Paging.numbered_congr hlength hdrop
  · rintro n s page n' ⟨hsize, hlength, hdrop⟩ hpage
    obtain ⟨rfl, hmem⟩ := Paging.numbered_eq_some hpage
    -- What comes after the page is what comes after its last position.
    have hafter : (s.owned serviceId).drop ((n + 1) * api.pageSize) =
        (api.owned serviceId).drop ((n + 1) * api.pageSize) := by
      rw [show (n + 1) * api.pageSize = n * api.pageSize + api.pageSize by ring,
        ← List.drop_drop, hdrop, List.drop_drop]
    have hnodup := api.nodup_owned serviceId
    rw [← List.take_append_drop ((n + 1) * api.pageSize) (api.owned serviceId), List.map_append,
      List.nodup_append] at hnodup
    obtain ⟨hsize', hlength', hrest⟩ := foldl_demote_owned hafter fun item hitem u hu heq =>
      hnodup.2.2 item.ansibleId (List.mem_map_of_mem (hmem item hitem)) u.ansibleId
        (List.mem_map_of_mem hu) heq.symm
    exact ⟨hsize'.trans hsize, hlength'.trans hlength, hrest⟩

/-- A user is followed through a pass by its id. It stays a superuser unless an item with its id
is demoted. -/
theorem exists_mem_foldl_demote (gatewaySuperusers : List String) (items : List UserResource)
    (hu : u ∈ s.users) :
    ∃ u' ∈ (items.foldl (demote gatewaySuperusers) s).users, u'.ansibleId = u.ansibleId ∧
      (u'.isSuperuser = false ↔ u.isSuperuser = false ∨
        ∃ item ∈ items, Demotes gatewaySuperusers item ∧ u.ansibleId = item.ansibleId) := by
  -- The user changes on the way, its id does not.
  induction items generalizing s u with
  | nil => exact ⟨u, hu, rfl, by simp⟩
  | cons item items ih =>
      by_cases h : Demotes gatewaySuperusers item ∧ u.ansibleId = item.ansibleId
      · have hmem : { u with username := item.username, isSuperuser := false } ∈
            (demote gatewaySuperusers s item).users := by
          rw [demote_users]
          exact List.mem_map.mpr ⟨u, hu, if_pos h⟩
        obtain ⟨u', hu', hid, hflag⟩ := ih hmem
        exact ⟨u', hu', hid, by simp [hflag, h.1, h.2]⟩
      · have hmem : u ∈ (demote gatewaySuperusers s item).users := by
          rw [demote_users]
          exact List.mem_map.mpr ⟨u, hu, if_neg h⟩
        obtain ⟨u', hu', hid, hflag⟩ := ih hmem
        exact ⟨u', hu', hid, by simp [hflag, h]⟩

/-- A superuser that the gateway owns is demoted exactly if it is not among the superusers that
the gateway had at the start. -/
theorem exists_mem_demoteExtraSuperusers (gatewaySuperusers : List String)
    (hu : u ∈ api.owned serviceId) (hsuper : u.isSuperuser = true) :
    ∃ u' ∈ (demoteExtraSuperusers serviceId gatewaySuperusers api).users,
      u'.ansibleId = u.ansibleId ∧
      (u'.isSuperuser = false ↔ u.username ∉ gatewaySuperusers) := by
  rw [demoteExtraSuperusers_eq_foldl]
  obtain ⟨u', hu', hid, hflag⟩ := exists_mem_foldl_demote gatewaySuperusers
    (api.owned serviceId) (List.mem_of_mem_filter hu)
  refine ⟨u', hu', hid, hflag.trans ⟨?_, fun hname => Or.inr ⟨u, hu, ⟨hsuper, hname⟩, rfl⟩⟩⟩
  rintro (hfalse | ⟨item, hitem, hdemotes, heq⟩)
  · simp [hsuper] at hfalse
  · -- No other item has the same id.
    have hself : u = item := List.inj_on_of_nodup_map (api.nodup_owned serviceId) hu hitem heq
    exact hself ▸ hdemotes.2

end Demotion

section Consistency

variable {w w' : World}

/-- What the check leaves behind when it returns normally. -/
theorem ensureSuperuserConsistency_spec (h : ensureSuperuserConsistency w = .ok w') :
    w'.serviceId = w.serviceId ∧
    (w'.serviceApis = w.serviceApis.map fun api =>
      if api.isHubOrEda then demoteExtraSuperusers w.serviceId w.users.superusers api else api) ∧
    ∀ name, name ∈ w'.users.superusers ↔
      name ∈ w.users.superusers ∨ ControllerSuperuser w name := by
  unfold ensureSuperuserConsistency at h
  unfold ControllerSuperuser
  cases hcontroller : controllerApi w.serviceApis with
  | none =>
      rw [hcontroller] at h
      cases h
      exact ⟨rfl, rfl, by simp⟩
  | some api =>
      simp only [hcontroller] at h
      cases husers : ensureControllerGatewaySuperusers api w.users.superusers w.users with
      | error e =>
          rw [husers] at h
          cases h
      | ok users =>
          rw [husers] at h
          cases h
          refine ⟨rfl, rfl, fun name => ?_⟩
          rw [mem_superusers_of_ensureController husers]
          simp

end Consistency

/-- When the check returns normally, the superusers of the gateway and of the services agree
exactly if no hub or EDA has a superuser that the check itself promotes, and no controller but the
last one has a superuser that would have to be promoted. -/
theorem consistent_iff_noStaleSuperuser (w w' : World)
    (h : ensureSuperuserConsistency w = .ok w') : Consistent w w' ↔ NoStaleSuperuser w := by
  obtain ⟨hid, hservices, hsuperusers⟩ := ensureSuperuserConsistency_spec h
  constructor
  · intro hconsistent
    refine ⟨fun api hapi htype u hu hsuper => ?_, fun api hapi hhub u hu hsuper hcontroller => ?_⟩
    · exact (hsuperusers u.username).mp (hconsistent.promoted api hapi htype u hu hsuper)
    · have hdemoted := hconsistent.demoted
      rw [hservices, List.forall₂_map_right_iff, List.forall₂_same] at hdemoted
      have hthis := hdemoted api hapi hhub u (hid ▸ hu) hsuper
      rw [if_pos hhub] at hthis
      obtain ⟨u', hu', hid', hflag⟩ := hthis
      obtain ⟨u'', hu'', hid'', hflag''⟩ :=
        exists_mem_demoteExtraSuperusers w.users.superusers hu hsuper
      have hsame : u'' = u' := List.inj_on_of_nodup_map (ServiceApi.nodup _) hu'' hu'
        (hid''.trans hid'.symm)
      -- The check demotes the user by the old set, and the new set has the user.
      by_contra hname
      have hfalse := hflag''.mpr hname
      rw [hsame, hflag, hsuperusers] at hfalse
      exact hfalse (Or.inr hcontroller)
  · intro hstale
    refine ⟨fun api hapi htype u hu hsuper => ?_, ?_⟩
    · exact (hsuperusers u.username).mpr (hstale.controller api hapi htype u hu hsuper)
    · rw [hservices, List.forall₂_map_right_iff, List.forall₂_same]
      intro api hapi hhub u hu hsuper
      rw [if_pos hhub]
      rw [hid] at hu
      obtain ⟨u', hu', hid', hflag⟩ :=
        exists_mem_demoteExtraSuperusers w.users.superusers hu hsuper
      refine ⟨u', hu', hid', hflag.trans ?_⟩
      rw [hsuperusers, not_or]
      exact ⟨fun hname => ⟨hname, fun hcontroller =>
        hname (hstale.hubOrEda api hapi hhub u hu hsuper hcontroller)⟩, fun hname => hname.1⟩

/-- A gateway with one superuser, a controller and a hub. The operator is a superuser of the
controller and a user of the gateway. -/
def operatorWorld (hubSuperuser : Bool) : World where
  serviceId := "gateway"
  users := ⟨[⟨"admin", true, false⟩, ⟨"operator", false, false⟩], by decide⟩
  serviceApis :=
    [⟨"controller", 25, [⟨"c0", "gateway", "operator", true⟩], by decide, by decide⟩,
      ⟨"hub", 25, [⟨"h0", "gateway", "operator", hubSuperuser⟩], by decide,
        List.nodup_singleton _⟩]

/-- The operator is promoted in the gateway, and is no superuser of the hub. -/
theorem consistent_operatorWorld :
    ∃ w', ensureSuperuserConsistency (operatorWorld false) = .ok w' ∧
      Consistent (operatorWorld false) w' := by
  refine ⟨_, rfl, (consistent_iff_noStaleSuperuser (operatorWorld false) _ rfl).mpr ⟨?_, ?_⟩⟩
  · intro api hapi htype u hu hsuper
    obtain rfl | hapi := List.mem_cons.mp hapi
    · exact Or.inr ⟨_, rfl, u, hu, hsuper, rfl⟩
    · obtain rfl := List.mem_singleton.mp hapi
      exact absurd htype (by decide)
  · intro api hapi hhub u hu hsuper
    obtain rfl | hapi := List.mem_cons.mp hapi
    · exact absurd hhub (by decide)
    · obtain rfl := List.mem_singleton.mp hapi
      obtain rfl := List.mem_singleton.mp hu
      cases hsuper

/-- The operator is promoted in the gateway, and demoted in the hub. -/
theorem not_consistent_operatorWorld :
    ∃ w', ensureSuperuserConsistency (operatorWorld true) = .ok w' ∧
      ¬ Consistent (operatorWorld true) w' := by
  refine ⟨_, rfl, fun h => ?_⟩
  have hdemoted := h.demoted
  cases hdemoted with
  | cons _ hrest =>
      cases hrest with
      | cons hhub _ =>
          obtain ⟨u', hu', -, hflag⟩ :=
            hhub (by decide) ⟨"h0", "gateway", "operator", true⟩ (by decide) rfl
          obtain rfl := List.mem_singleton.mp hu'
          exact hflag.mp rfl (by decide)

end AapGateway.Migration.Superusers
