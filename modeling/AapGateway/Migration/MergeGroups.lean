import AapGateway.Migration.UserMerge

/-!
# Merging all groups

`_merge_partially_migrated_users` merges the groups of correlated accounts one after the other. A
group with a conflict is meant to be reported and skipped: `_merge_user_group` collects the
conflicts and returns 0, and the command complains at the end that not all accounts were merged.
But `can_accounts_be_merged` never answers false. It raises, the exception passes through
`_merge_user_group`, and the groups that come later are not processed.

No group is changed when a conflict is detected in it, since validation comes first.

## Main definitions

* `mergePartiallyMigratedUsers`: the loop over the groups;
* `MergeState.account`: everything about one account;
* `Detected`, `Mergeable` and `FullyMerged`: the groups with a conflict that is detected, the
  groups that can be merged to the end, and what a merge to the end achieves.

## Main results

* `mergeUserGroup_cases`: how one group ends;
* `mergePartiallyMigratedUsers_iff`: the lists of groups for which a detected conflict does not
  block the others.
-/

namespace AapGateway.Migration

section Loop

variable (env : MergeEnv)

/-- The text of the error at the end of the merge. -/
def notAllMergedText (merged total : ℕ) : String :=
  "Failed to merge all partially migrated users. Merged " ++ merged.repr ++ " out of " ++
    total.repr ++ " users."

/-- The fourth step of `_merge_partially_migrated_users`: merge the groups, counting the accounts,
and compare the count with the number of partially migrated users. -/
def mergePartiallyMigratedUsers (total : ℕ) : List UserGroup → ℕ → MergeState → MergeResult Unit
  | [], merged, w =>
    if merged ≠ total then (w, .error (.notAllMerged (notAllMergedText merged total)))
    else (w, .ok ())
  | G :: groups, merged, w =>
    match mergeUserGroup env w G with
    | (w', .error e) => (w', .error e)
    | (w', .ok n) => mergePartiallyMigratedUsers total groups (merged + n) w'

end Loop

/-! ## One account -/

/-- Everything about one account: its user, its migrated accounts, its authenticator users, its
resource, and the requests about it. -/
structure AccountView where
  users : List GatewayUser
  services : List ℕ
  authenticators : List (ℕ × ℕ)
  resources : List UserResource
  calls : List MergeCall
  deriving DecidableEq, Repr

namespace MergeState

/-- Everything about one account. -/
def account (w : MergeState) (u : GatewayUser) : AccountView where
  users := w.gateway.users.filter fun v => v.pk = u.pk
  services := w.gateway.originalServices u
  authenticators := w.gateway.authenticatorUsers.filter fun r => r.1 = u.pk
  resources := w.resources.filter fun r => r.user = u.pk
  calls := w.sent.filter fun c => c.ansibleId = u.ansibleId

/-- Whether an account is migrated is read off its resource. -/
theorem isMigrated_eq (w : MergeState) (u : GatewayUser) :
    w.isMigrated u = (w.account u).resources.any fun r => r.serviceId = w.gateway.serviceId := by
  unfold isMigrated account
  rw [List.any_filter]

/-- An account whose resources are the same still has a resource. -/
theorem exists_resource_of_account {w w' : MergeState} {u : GatewayUser}
    (hresources : (w'.account u).resources = (w.account u).resources)
    (h : ∃ r ∈ w.resources, r.user = u.pk) : ∃ r ∈ w'.resources, r.user = u.pk := by
  obtain ⟨r, hr, huser⟩ := h
  have hmem : r ∈ (w'.account u).resources := by
    rw [hresources]
    exact List.mem_filter.mpr ⟨hr, decide_eq_true huser⟩
  exact ⟨r, (List.mem_filter.mp hmem).1, huser⟩

end MergeState

/-- A step changes only these accounts, and sends requests. -/
structure TouchesOnly (accounts : List GatewayUser) (w w' : MergeState) : Prop where
  serviceId : w'.gateway.serviceId = w.gateway.serviceId
  sent : w.sent ⊆ w'.sent
  account : ∀ v : GatewayUser, v.pk ∉ accounts.map GatewayUser.pk →
    v.ansibleId ∉ accounts.map GatewayUser.ansibleId → w'.account v = w.account v

namespace TouchesOnly

variable {as bs : List GatewayUser} {w w' w'' : MergeState}

/-- A step that does nothing. -/
theorem refl (as : List GatewayUser) (w : MergeState) : TouchesOnly as w w :=
  ⟨rfl, fun _ h => h, fun _ _ _ => rfl⟩

/-- Two steps change the accounts of both. -/
theorem trans (h : TouchesOnly as w w') (h' : TouchesOnly bs w' w'') :
    TouchesOnly (as ++ bs) w w'' where
  serviceId := h'.serviceId.trans h.serviceId
  sent := fun _ hc => h'.sent (h.sent hc)
  account := by
    intro v hpk hid
    rw [List.map_append, List.mem_append, not_or] at hpk hid
    rw [h'.account v hpk.2 hid.2, h.account v hpk.1 hid.1]

/-- A step that changes some accounts changes no others. -/
theorem mono (h : TouchesOnly as w w') (hsub : as ⊆ bs) : TouchesOnly bs w w' where
  serviceId := h.serviceId
  sent := h.sent
  account := by
    intro v hpk hid
    exact h.account v (fun hin => hpk (List.map_subset _ hsub hin))
      fun hin => hid (List.map_subset _ hsub hin)

end TouchesOnly

section Link

variable {w : MergeState} {main u v : GatewayUser}

/-- Filtering by a key is not affected by the removal of another key. -/
theorem filter_ne_filter_eq {α : Type} (key : α → ℕ) {a b : ℕ} (hne : b ≠ a) (rows : List α) :
    (rows.filter fun r => key r ≠ a).filter (fun r => key r = b) =
      rows.filter fun r => key r = b := by
  rw [List.filter_filter]
  refine List.filter_congr fun r _ => ?_
  by_cases hr : key r = b
  · simp [hr, hne]
  · simp [hr]

/-- After its removal nothing of a key is left. -/
theorem filter_ne_filter_self {α : Type} (key : α → ℕ) (a : ℕ) (rows : List α) :
    (rows.filter fun r => key r ≠ a).filter (fun r => key r = a) = [] := by
  rw [List.filter_filter, List.filter_eq_nil_iff]
  intro r _
  simp

/-- The requests of a link are about the two accounts. -/
theorem ansibleId_of_mem_linkCalls {g : Gateway} {services : List ℕ} {c : MergeCall}
    (h : c ∈ (services.flatMap (g.serviceCalls main u)).map .link) :
    c.ansibleId = main.ansibleId ∨ c.ansibleId = u.ansibleId := by
  obtain ⟨call, hcall, rfl⟩ := List.mem_map.mp h
  obtain ⟨s, -, hs⟩ := List.mem_flatMap.mp hcall
  rcases List.mem_cons.mp hs with rfl | hs
  · exact Or.inl rfl
  · rw [List.mem_singleton.mp hs]
    exact Or.inr rfl

/-- Linking an account changes the two accounts only. -/
theorem touchesOnly_linked (w : MergeState) (main u : GatewayUser) :
    TouchesOnly [main, u] w (w.linked main u) where
  serviceId := rfl
  sent := List.subset_append_left _ _
  account := by
    intro v hpk hid
    simp only [List.map_cons, List.map_nil, List.mem_cons, List.not_mem_nil, or_false,
      not_or] at hpk hid
    have hcalls : ((w.linked main u).sent.filter fun c => c.ansibleId = v.ansibleId) =
        w.sent.filter fun c => c.ansibleId = v.ansibleId := by
      show List.filter _ (w.sent ++ _) = _
      rw [List.filter_append, List.append_right_eq_self, List.filter_eq_nil_iff]
      intro c hc heq
      have hv : c.ansibleId = v.ansibleId := of_decide_eq_true heq
      rcases ansibleId_of_mem_linkCalls hc with h | h
      · exact hid.1 (hv.symm.trans h)
      · exact hid.2 (hv.symm.trans h)
    unfold MergeState.account
    rw [hcalls, show (w.linked main u).gateway.originalServices v = w.gateway.originalServices v
      from Gateway.originalServices_merge hpk.1 hpk.2]
    unfold MergeState.linked Gateway.merge
    dsimp only
    rw [filter_ne_filter_eq GatewayUser.pk hpk.2, filter_ne_filter_eq UserResource.user hpk.2]
    simp only [Bool.false_eq_true, if_false]
    rw [filter_ne_filter_eq Prod.fst hpk.2]

/-- Linking an account keeps the user and the resource of the main account. -/
theorem account_linked_main (hpk : main.pk ≠ u.pk) :
    ((w.linked main u).account main).users = (w.account main).users ∧
      ((w.linked main u).account main).resources = (w.account main).resources :=
  ⟨filter_ne_filter_eq GatewayUser.pk hpk _, filter_ne_filter_eq UserResource.user hpk _⟩

/-- The account is gone: there is no row of it. -/
def AccountView.Gone (a : AccountView) : Prop :=
  a.users = [] ∧ a.services = [] ∧ a.authenticators = [] ∧ a.resources = []

/-- The account that was linked is gone. -/
theorem gone_linked (hpk : main.pk ≠ u.pk) : ((w.linked main u).account u).Gone := by
  refine ⟨filter_ne_filter_self GatewayUser.pk _ _, ?_, ?_,
    filter_ne_filter_self UserResource.user _ _⟩
  · rw [List.eq_nil_iff_forall_not_mem]
    intro s hs
    have hrow := Gateway.mem_originalServices.mp hs
    exact Gateway.ne_of_mem_repoint hpk hrow rfl
  · exact filter_ne_filter_self Prod.fst _ _

end Link

/-! ## The merge phase -/

/-- What linking all accounts to the main account achieves. -/
structure AllLinked (main : GatewayUser) (others : List GatewayUser) (w w' : MergeState) :
    Prop where
  touches : TouchesOnly (main :: others) w w'
  nodup : w'.gateway.originalAccounts.Nodup
  services : ∀ s, s ∈ w'.gateway.originalServices main ↔
    ∃ u ∈ main :: others, s ∈ w.gateway.originalServices u
  main_users : (w'.account main).users = (w.account main).users
  main_resources : (w'.account main).resources = (w.account main).resources
  gone : ∀ u ∈ others, (w'.account u).Gone
  /-- Every service was told that the account is the main account's now. -/
  relabelled : ∀ u ∈ others, ∀ s ∈ w.gateway.originalServices u,
    .link (w.gateway.relabel main u s) ∈ w'.sent

/-- Accounts of a group have different ids. -/
def DistinctIds (main : GatewayUser) (others : List GatewayUser) : Prop :=
  ((main :: others).map GatewayUser.ansibleId).Nodup

/-- A merge phase that ends links all accounts. -/
theorem allLinked_of_linkAll {env : MergeEnv} {main : GatewayUser} {others : List GatewayUser}
    {w : MergeState} (hdistinct : Distinct main others) (hids : DistinctIds main others)
    (hnodup : w.gateway.originalAccounts.Nodup)
    (h : (linkAll env main others w).2 = .ok ()) :
    AllLinked main others w (linkAll env main others w).1 := by
  induction others generalizing w with
  | nil =>
      refine ⟨.refl _ _, hnodup, ?_, rfl, rfl, ?_, ?_⟩
      · intro s
        simp [linkAll]
      · intro u hu
        cases hu
      · intro u hu
        cases hu
  | cons u us ih =>
      obtain ⟨hpk, hmain, hu, hrest⟩ := hdistinct.cons
      obtain ⟨hid, hids'⟩ := List.nodup_cons.mp hids
      obtain ⟨huid, hus⟩ := List.nodup_cons.mp hids'
      have hrestIds : DistinctIds main us := by
        rw [List.map_cons, List.mem_cons, not_or] at hid
        exact List.nodup_cons.mpr ⟨hid.2, hus⟩
      rw [linkAll] at h ⊢
      -- Only a link that succeeds lets the loop go on, and the phase end without an error.
      rcases linkAccount_cases env hpk hnodup with
        ⟨hok, hapart, -⟩ | ⟨e, herror, -⟩ | ⟨herror, -⟩ | ⟨-, sent, herror⟩
      · rw [hok] at h ⊢
        dsimp only at h ⊢
        have hlater := ih hrest hrestIds (nodup_linked hnodup hapart) h
        have hlinked := touchesOnly_linked w main u
        -- The rest of the phase does not touch the account that is linked first.
        have hkept : ((linkAll env main us (w.linked main u)).1.account u) =
            (w.linked main u).account u := by
          refine hlater.touches.account u ?_ ?_
          · rw [List.map_cons, List.mem_cons, not_or]
            exact ⟨hpk.symm, hu⟩
          · rw [List.map_cons, List.mem_cons, not_or]
            rw [List.map_cons, List.mem_cons, not_or] at hid
            exact ⟨Ne.symm hid.1, huid⟩
        have hservices : ∀ v ∈ us, (w.linked main u).gateway.originalServices v =
            w.gateway.originalServices v :=
          fun v hv => Gateway.originalServices_merge_of_mem hmain hu hv
        refine ⟨?_, hlater.nodup, ?_, ?_, ?_, ?_, ?_⟩
        · refine (hlinked.trans hlater.touches).mono ?_
          intro v hv
          simp only [List.cons_append, List.nil_append, List.mem_cons] at hv ⊢
          tauto
        · intro s
          rw [hlater.services s, List.exists_mem_cons_iff, List.exists_mem_cons_iff,
            List.exists_mem_cons_iff,
            show s ∈ (w.linked main u).gateway.originalServices main ↔ _ from
              Gateway.mem_originalServices_merge, or_assoc]
          refine or_congr_right (or_congr_right ?_)
          constructor
          · rintro ⟨v, hv, hs⟩
            exact ⟨v, hv, hservices v hv ▸ hs⟩
          · rintro ⟨v, hv, hs⟩
            exact ⟨v, hv, (hservices v hv).symm ▸ hs⟩
        · exact hlater.main_users.trans (account_linked_main hpk).1
        · exact hlater.main_resources.trans (account_linked_main hpk).2
        · intro v hv
          rcases List.mem_cons.mp hv with rfl | hv
          · rw [hkept]
            exact gone_linked hpk
          · exact hlater.gone v hv
        · intro v hv s hs
          rcases List.mem_cons.mp hv with rfl | hv
          · -- The request was sent by the first link, and what was sent stays sent.
            refine hlater.touches.sent (List.mem_append_right _ (List.mem_map_of_mem ?_))
            refine List.mem_flatMap.mpr ⟨s, hs, ?_⟩
            exact List.mem_cons_of_mem _ (List.mem_singleton_self _)
          · exact hlater.relabelled v hv s ((hservices v hv).symm ▸ hs)
      · rw [herror] at h
        cases h
      · rw [herror] at h
        cases h
      · rw [herror] at h
        cases h

/-- The merge phase does not migrate the main account, wherever it ends. -/
theorem isMigrated_linkAll (env : MergeEnv) {main : GatewayUser} {others : List GatewayUser}
    {w : MergeState} (hdistinct : Distinct main others)
    (hnodup : w.gateway.originalAccounts.Nodup) :
    (linkAll env main others w).1.isMigrated main = w.isMigrated main := by
  induction others generalizing w with
  | nil => rfl
  | cons u us ih =>
      obtain ⟨hpk, -, -, hrest⟩ := hdistinct.cons
      rw [linkAll]
      rcases linkAccount_cases env hpk hnodup with
        ⟨hok, hapart, -⟩ | ⟨e, herror, -⟩ | ⟨herror, -⟩ | ⟨-, sent, herror⟩
      · rw [hok]
        dsimp only
        rw [ih hrest (nodup_linked hnodup hapart), MergeState.isMigrated_eq,
          MergeState.isMigrated_eq, (account_linked_main hpk).2]
        rfl
      · rw [herror]
      · rw [herror]
      · rw [herror]
        rfl

/-! ## The main account -/

/-- How the loop of `migrate_account` ends, when no request fails. What it sends is about the
account. -/
theorem migrateServices_cases {env : MergeEnv} (hworks : ¬env.FailsRequest) (call : ℕ → MergeCall)
    (services : List ℕ) (sent : List MergeCall) :
    (migrateServices env call services sent = (sent ++ services.map call, .ok ()) ∧
        ∀ s ∈ services, ∃ route, env.getServiceAPIRoute s = .ok route) ∨
      (∃ e sent', migrateServices env call services sent = (sent', .error (.lookup e)) ∧
        ∃ s ∈ services, env.getServiceAPIRoute s = .error e) := by
  induction services generalizing sent with
  | nil => simp [migrateServices]
  | cons s services ih =>
      cases hroute : env.getServiceAPIRoute s with
      | error e =>
          refine Or.inr ⟨e, sent, ?_, s, List.mem_cons_self, hroute⟩
          rw [migrateServices, hroute]
      | ok route =>
          -- With a route the request is sent, and no request fails.
          have hanswer : env.raises sent (call s) = false := by
            by_contra hraises
            exact hworks ⟨sent, call s, by simpa using hraises⟩
          have hstep : migrateServices env call (s :: services) sent =
              migrateServices env call services (sent ++ [call s]) := by
            simp [migrateServices, hroute, hanswer]
          rw [hstep]
          rcases ih (sent ++ [call s]) with ⟨hok, hall⟩ | ⟨e, sent', herror, s', hs', he⟩
          · left
            rw [hok, List.append_assoc]
            exact ⟨rfl, List.forall_mem_cons.mpr ⟨⟨route, hroute⟩, hall⟩⟩
          · exact Or.inr ⟨e, sent', herror, s', List.mem_cons_of_mem _ hs', he⟩

namespace MergeState

/-- The state after an account is migrated. -/
def migrated (env : MergeEnv) (w : MergeState) (u : GatewayUser) : MergeState :=
  { w with
    resources := w.resources.map fun r =>
      if r.user = u.pk then
        { r with serviceId := w.gateway.serviceId, isPartiallyMigrated := false }
      else r
    sent := w.sent ++ (w.gateway.originalServices u).map (w.migrateCall env u) }

/-- How the migration of a partially migrated account ends, when no request fails. -/
theorem migrateAccount_cases {env : MergeEnv} (hworks : ¬env.FailsRequest) {w : MergeState}
    {u : GatewayUser} (hunmigrated : w.isMigrated u = false) :
    (w.migrateAccount env u = (w.migrated env u, .ok ()) ∧ Routed env w.gateway [u]) ∨
      (∃ e sent, w.migrateAccount env u = ({ w with sent }, .error (.lookup e)) ∧
        ¬Routed env w.gateway [u]) := by
  unfold migrateAccount Routed
  rw [hunmigrated, if_neg Bool.false_ne_true, List.forall_mem_singleton]
  rcases migrateServices_cases hworks (w.migrateCall env u) (w.gateway.originalServices u)
      w.sent with ⟨hok, hall⟩ | ⟨e, sent, herror, s, hs, he⟩
  · left
    rw [hok]
    exact ⟨rfl, hall⟩
  · right
    rw [herror]
    refine ⟨e, sent, rfl, ?_⟩
    intro hall
    obtain ⟨route, hroute⟩ := hall s hs
    rw [he] at hroute
    cases hroute

/-- Migrating an account changes that account only. -/
theorem touchesOnly_migrated (env : MergeEnv) (w : MergeState) (u : GatewayUser) :
    TouchesOnly [u] w (w.migrated env u) where
  serviceId := rfl
  sent := List.subset_append_left _ _
  account := by
    intro v hpk hid
    simp only [List.map_cons, List.map_nil, List.mem_singleton] at hpk hid
    have hcalls : ((w.migrated env u).sent.filter fun c => c.ansibleId = v.ansibleId) =
        w.sent.filter fun c => c.ansibleId = v.ansibleId := by
      show List.filter _ (w.sent ++ _) = _
      rw [List.filter_append, List.append_right_eq_self, List.filter_eq_nil_iff]
      intro c hc heq
      obtain ⟨s, -, rfl⟩ := List.mem_map.mp hc
      have hv : u.ansibleId = v.ansibleId := of_decide_eq_true heq
      exact hid hv.symm
    have hresources : ((w.migrated env u).resources.filter fun r => r.user = v.pk) =
        w.resources.filter fun r => r.user = v.pk := by
      show List.filter _ (w.resources.map _) = _
      induction w.resources with
      | nil => rfl
      | cons r rows ih =>
          rw [List.map_cons]
          by_cases hr : r.user = u.pk
          · have hne : ¬r.user = v.pk := fun h => hpk (h.symm.trans hr)
            rw [if_pos hr, List.filter_cons_of_neg (by simpa using hne), ih,
              List.filter_cons_of_neg (by simpa using hne)]
          · rw [if_neg hr, List.filter_cons, List.filter_cons, ih]
    unfold account
    rw [hcalls, hresources]
    rfl

/-- An account with a resource is migrated afterwards, fully. -/
theorem isMigrated_migrated (env : MergeEnv) {w : MergeState} {u : GatewayUser}
    (hresource : ∃ r ∈ w.resources, r.user = u.pk) :
    (w.migrated env u).isMigrated u = true ∧
      ∀ r ∈ (w.migrated env u).resources, r.user = u.pk → r.isPartiallyMigrated = false := by
  constructor
  · obtain ⟨r, hr, huser⟩ := hresource
    refine List.any_eq_true.mpr ⟨_, List.mem_map_of_mem hr, ?_⟩
    rw [if_pos huser]
    simp [migrated, huser]
  · intro r hr huser
    obtain ⟨r', -, rfl⟩ := List.mem_map.mp hr
    by_cases hr' : r'.user = u.pk
    · rw [if_pos hr']
    · rw [if_neg hr'] at huser
      exact absurd huser hr'

end MergeState

/-! ## One group -/

/-- `can_accounts_be_merged` detects a conflict in the group. -/
def Detected (env : MergeEnv) (w : MergeState) (G : UserGroup) : Prop :=
  ∃ u ∈ G.others, ∃ e,
    canAccountsBeMerged env.serviceTypeName w.gateway G.main u = .error e

/-- The group can be merged to the end once it is validated: no two merged accounts have a service
in common, and each service of its accounts has one API route. -/
def Mergeable (env : MergeEnv) (w : MergeState) (G : UserGroup) : Prop :=
  G.others.Pairwise w.gateway.Apart ∧ Routed env w.gateway G.accounts

/-- The group has been merged to the end, and its main account migrated. -/
structure FullyMerged (env : MergeEnv) (w w' : MergeState) (G : UserGroup) : Prop where
  services : ∀ s, s ∈ (w'.account G.main).services ↔
    ∃ u ∈ G.accounts, s ∈ (w.account u).services
  main_users : (w'.account G.main).users = (w.account G.main).users
  gone : ∀ u ∈ G.others, (w'.account u).Gone
  relabelled : ∀ u ∈ G.others, ∀ s ∈ (w.account u).services,
    .link (w.gateway.relabel G.main u s) ∈ w'.sent
  migrated : w'.isMigrated G.main = true
  notPartially : ∀ r ∈ (w'.account G.main).resources, r.isPartiallyMigrated = false
  told : ∀ s ∈ (w'.account G.main).services, w.migrateCall env G.main s ∈ w'.sent

/-- The accounts of a group are different users with different ids, and the main account is
partially migrated. -/
structure GroupSetting (w : MergeState) (G : UserGroup) : Prop where
  distinct : Distinct G.main G.others
  distinctIds : DistinctIds G.main G.others
  partiallyMigrated : w.isMigrated G.main = false
  has_resource : ∃ r ∈ w.resources, r.user = G.main.pk

/-- A conflict is detected when a merged account has a service of the main account. -/
theorem detected_iff {env : MergeEnv} {w : MergeState} {G : UserGroup} :
    Detected env w G ↔ ∃ u ∈ G.others, ¬w.gateway.Apart G.main u := by
  refine exists_congr fun u => and_congr_right fun _ => ?_
  rcases canAccountsBeMerged_cases env.serviceTypeName w.gateway G.main u with
    ⟨hok, hapart⟩ | ⟨⟨message, herror⟩, hnot⟩
  · rw [hok]
    exact iff_of_false (by rintro ⟨e, he⟩; cases he) (not_not.mpr hapart)
  · exact iff_of_true ⟨_, herror⟩ hnot

/-- After the links the main account's lookups are those of the whole group. -/
theorem routed_accounts_iff {env : MergeEnv} {w w' : MergeState} {G : UserGroup}
    (h : AllLinked G.main G.others w w') :
    Routed env w'.gateway [G.main] ↔ Routed env w.gateway G.accounts := by
  unfold Routed
  rw [List.forall_mem_singleton]
  constructor
  · intro hrouted u hu s hs
    exact hrouted s ((h.services s).mpr ⟨u, hu, hs⟩)
  · intro hrouted s hs
    obtain ⟨u, hu, hs⟩ := (h.services s).mp hs
    exact hrouted u hu s hs

/-- Linking all accounts and migrating the main account merges the group to the end. -/
theorem fullyMerged_of_allLinked (env : MergeEnv) {w w' : MergeState} {G : UserGroup}
    (hsetting : GroupSetting w G) (h : AllLinked G.main G.others w w') :
    TouchesOnly G.accounts w (w'.migrated env G.main) ∧
      FullyMerged env w (w'.migrated env G.main) G := by
  have htouches := MergeState.touchesOnly_migrated env w' G.main
  have hresource : ∃ r ∈ w'.resources, r.user = G.main.pk :=
    MergeState.exists_resource_of_account h.main_resources hsetting.has_resource
  obtain ⟨hmigrated, hfully⟩ := MergeState.isMigrated_migrated env hresource
  constructor
  · refine (h.touches.trans htouches).mono ?_
    intro v hv
    simpa [UserGroup.accounts, or_comm, or_left_comm] using hv
  · refine ⟨h.services, h.main_users, ?_, ?_, hmigrated, ?_, ?_⟩
    · intro u hu
      -- The migration touches the main account only.
      have hkept : (w'.migrated env G.main).account u = w'.account u := by
        refine htouches.account u ?_ ?_
        · rw [List.map_cons, List.map_nil, List.mem_singleton]
          exact fun heq => (List.nodup_cons.mp hsetting.distinct).1 (heq ▸ List.mem_map_of_mem hu)
        · rw [List.map_cons, List.map_nil, List.mem_singleton]
          exact fun heq =>
            (List.nodup_cons.mp hsetting.distinctIds).1 (heq ▸ List.mem_map_of_mem hu)
      rw [hkept]
      exact h.gone u hu
    · intro u hu s hs
      exact htouches.sent (h.relabelled u hu s hs)
    · intro r hr
      obtain ⟨hmem, huser⟩ := List.mem_filter.mp hr
      exact hfully r hmem (of_decide_eq_true huser)
    · intro s hs
      refine List.mem_append_right _ (List.mem_map.mpr ⟨s, hs, ?_⟩)
      unfold MergeState.migrateCall
      rw [h.touches.serviceId]

/-- How a group ends, when no request fails: a conflict is detected and nothing is changed; or the
group is merged to the end; or it cannot be, and the main account is not migrated. -/
theorem mergeUserGroup_cases {env : MergeEnv} (hworks : ¬env.FailsRequest) {w : MergeState}
    {G : UserGroup} (hnodup : w.gateway.originalAccounts.Nodup) (hsetting : GroupSetting w G) :
    (Detected env w G ∧ ∃ e, mergeUserGroup env w G = (w, .error e)) ∨
      (¬Detected env w G ∧ Mergeable env w G ∧ ∃ w' n, mergeUserGroup env w G = (w', .ok n) ∧
        TouchesOnly G.accounts w w' ∧ w'.gateway.originalAccounts.Nodup ∧
        FullyMerged env w w' G) ∨
      (¬Detected env w G ∧ ¬Mergeable env w G ∧ ∃ w' e, mergeUserGroup env w G = (w', .error e) ∧
        w'.isMigrated G.main = false) := by
  rw [detected_iff]
  unfold mergeUserGroup
  rcases mergeConflicts_cases env.serviceTypeName w.gateway G.main G.others with
    ⟨hvalid, hapart⟩ | ⟨⟨message, herror⟩, hconflict⟩
  · right
    have hnot : ¬∃ u ∈ G.others, ¬w.gateway.Apart G.main u := by
      rintro ⟨u, hu, hconflict⟩
      exact hconflict (hapart u hu)
    have hunmigrated := isMigrated_linkAll env hsetting.distinct hnodup
    rw [hvalid, hsetting.partiallyMigrated] at *
    dsimp only
    rw [if_neg (not_not.mpr rfl)]
    have hcases := linkAll_cases env hsetting.distinct hnodup
    rcases hresult : linkAll env G.main G.others w with ⟨w', result⟩
    rw [hresult] at hunmigrated hcases
    -- The links succeed, or a lookup fails, or two merged accounts share a service.
    rcases hcases with
      ⟨rfl, hclean, hrouted⟩ | ⟨e, rfl, hlookup⟩ | ⟨rfl, hnotClean⟩ | ⟨hfails, -⟩
    · have hlinked := allLinked_of_linkAll hsetting.distinct hsetting.distinctIds hnodup
        (congrArg Prod.snd hresult)
      rw [hresult] at hlinked
      dsimp only
      rcases MergeState.migrateAccount_cases hworks hunmigrated with
        ⟨hok, hroutes⟩ | ⟨e, sent, herror, hroutes⟩
      · left
        rw [hok]
        obtain ⟨htouches, hmerged⟩ := fullyMerged_of_allLinked env hsetting hlinked
        exact ⟨hnot, ⟨hclean.2, (routed_accounts_iff hlinked).mp hroutes⟩, _, _, rfl, htouches,
          hlinked.nodup, hmerged⟩
      · right
        rw [herror]
        exact ⟨hnot, fun h => hroutes ((routed_accounts_iff hlinked).mpr h.2), _, _, rfl,
          hunmigrated⟩
    · right
      refine ⟨hnot, ?_, w', _, rfl, hunmigrated⟩
      exact fun h => hlookup fun u hu => h.2 u (List.mem_cons_of_mem _ hu)
    · right
      exact ⟨hnot, fun h => hnotClean ⟨hapart, h.1⟩, w', _, rfl, hunmigrated⟩
    · exact absurd hfails hworks
  · left
    rw [herror]
    exact ⟨hconflict, _, rfl⟩

/-! ## All groups -/

/-- The tables before the merge: the pairs of user and service are unique, the accounts of all
groups are different users with different ids, and the main accounts are partially migrated. -/
structure GroupsSetting (w : MergeState) (groups : List UserGroup) : Prop where
  unique : w.gateway.originalAccounts.Nodup
  users : ((groups.flatMap UserGroup.accounts).map GatewayUser.pk).Nodup
  ids : ((groups.flatMap UserGroup.accounts).map GatewayUser.ansibleId).Nodup
  partiallyMigrated : ∀ G ∈ groups, w.isMigrated G.main = false
  has_resource : ∀ G ∈ groups, ∃ r ∈ w.resources, r.user = G.main.pk

/-- No group with a detected conflict is changed, and every other group is merged to the end. -/
structure OthersMerged (env : MergeEnv) (w w' : MergeState) (groups : List UserGroup) : Prop where
  merged : ∀ G ∈ groups, ¬Detected env w G → FullyMerged env w w' G
  unchanged : ∀ G ∈ groups, Detected env w G → ∀ u ∈ G.accounts, w'.account u = w.account u

/-- The lists of groups for which a conflict does not block the others: a group without a detected
conflict can be merged, and does not come after a group with one. -/
structure NothingBlocked (env : MergeEnv) (w : MergeState) (groups : List UserGroup) : Prop where
  mergeable : ∀ G ∈ groups, ¬Detected env w G → Mergeable env w G
  ordered : groups.Pairwise fun G H => Detected env w G → Detected env w H

section Congruence

variable {env : MergeEnv} {w w' w'' : MergeState} {G : UserGroup}

/-- What a group sees of the tables: nothing of it was changed between the two states. -/
def SameGroup (w w' : MergeState) (G : UserGroup) : Prop :=
  w'.gateway.serviceId = w.gateway.serviceId ∧ ∀ u ∈ G.accounts, w'.account u = w.account u

/-- Both states see the same. -/
theorem SameGroup.symm (h : SameGroup w w' G) : SameGroup w' w G :=
  ⟨h.1.symm, fun u hu => (h.2 u hu).symm⟩

/-- The main account of an unchanged group is migrated as before. -/
theorem SameGroup.isMigrated_eq (h : SameGroup w w' G) :
    w'.isMigrated G.main = w.isMigrated G.main := by
  rw [MergeState.isMigrated_eq, MergeState.isMigrated_eq, h.2 G.main List.mem_cons_self, h.1]

/-- The services of the accounts of an unchanged group. -/
theorem SameGroup.services (h : SameGroup w w' G) {u : GatewayUser} (hu : u ∈ G.accounts) :
    w'.gateway.originalServices u = w.gateway.originalServices u :=
  congrArg AccountView.services (h.2 u hu)

/-- A conflict is detected in an unchanged group as before. -/
theorem SameGroup.detected_iff (h : SameGroup w w' G) : Detected env w' G ↔ Detected env w G := by
  rw [Migration.detected_iff, Migration.detected_iff]
  refine exists_congr fun u => and_congr_right fun hu => ?_
  unfold Gateway.Apart
  rw [h.services List.mem_cons_self, h.services (List.mem_cons_of_mem _ hu)]

/-- An unchanged group can be merged as before. -/
theorem SameGroup.mergeable_iff (h : SameGroup w w' G) :
    Mergeable env w' G ↔ Mergeable env w G := by
  have hpairs : G.others.Pairwise w'.gateway.Apart ↔ G.others.Pairwise w.gateway.Apart := by
    refine List.Pairwise.iff_of_mem ?_
    intro u v hu hv
    unfold Gateway.Apart
    rw [h.services (List.mem_cons_of_mem _ hu), h.services (List.mem_cons_of_mem _ hv)]
  have hroutes : Routed env w'.gateway G.accounts ↔ Routed env w.gateway G.accounts := by
    refine forall₂_congr fun u hu => ?_
    rw [h.services hu]
  exact and_congr hpairs hroutes

/-- A merge of an unchanged group is one from the other state too. -/
theorem SameGroup.fullyMerged (h : SameGroup w w' G) (hmerged : FullyMerged env w w'' G) :
    FullyMerged env w' w'' G where
  services := by
    intro s
    rw [hmerged.services s]
    refine exists_congr fun u => and_congr_right fun hu => ?_
    rw [h.2 u hu]
  main_users := by
    rw [hmerged.main_users, h.2 G.main List.mem_cons_self]
  gone := hmerged.gone
  relabelled := by
    intro u hu s hs
    rw [h.2 u (List.mem_cons_of_mem _ hu)] at hs
    -- The request carries the service id of the gateway, which is the same too.
    unfold Gateway.relabel
    rw [h.1]
    exact hmerged.relabelled u hu s hs
  migrated := hmerged.migrated
  notPartially := hmerged.notPartially
  told := by
    intro s hs
    unfold MergeState.migrateCall
    rw [h.1]
    exact hmerged.told s hs

/-- A merge of an unchanged group is the same from either state. -/
theorem SameGroup.fullyMerged_iff (h : SameGroup w w' G) :
    FullyMerged env w' w'' G ↔ FullyMerged env w w'' G :=
  ⟨h.symm.fullyMerged, h.fullyMerged⟩

/-- A merged group stays merged while its accounts are not touched. -/
theorem FullyMerged.of_untouched (hmerged : FullyMerged env w w' G) (h : SameGroup w' w'' G)
    (hsent : w'.sent ⊆ w''.sent) : FullyMerged env w w'' G := by
  have hmain := h.2 G.main List.mem_cons_self
  refine ⟨?_, ?_, ?_, ?_, ?_, ?_, ?_⟩
  · rw [hmain]
    exact hmerged.services
  · rw [hmain]
    exact hmerged.main_users
  · intro u hu
    rw [h.2 u (List.mem_cons_of_mem _ hu)]
    exact hmerged.gone u hu
  · exact fun u hu s hs => hsent (hmerged.relabelled u hu s hs)
  · rw [h.isMigrated_eq]
    exact hmerged.migrated
  · rw [hmain]
    exact hmerged.notPartially
  · rw [hmain]
    exact fun s hs => hsent (hmerged.told s hs)

end Congruence

section Groups

variable {env : MergeEnv} {w w' : MergeState} {G : UserGroup} {groups : List UserGroup}

/-- The setting of the first group. -/
theorem GroupsSetting.head (h : GroupsSetting w (G :: groups)) : GroupSetting w G where
  distinct := by
    have husers := h.users
    rw [List.flatMap_cons, List.map_append] at husers
    exact (List.nodup_append.mp husers).1
  distinctIds := by
    have hids := h.ids
    rw [List.flatMap_cons, List.map_append] at hids
    exact (List.nodup_append.mp hids).1
  partiallyMigrated := h.partiallyMigrated G List.mem_cons_self
  has_resource := h.has_resource G List.mem_cons_self

/-- A step on the accounts of some groups leaves the accounts of the others. -/
theorem sameGroup_of_touchesOnly {as : List GatewayUser} {H : UserGroup}
    (htouches : TouchesOnly as w w')
    (husers : (as.map GatewayUser.pk).Disjoint (H.accounts.map GatewayUser.pk))
    (hids : (as.map GatewayUser.ansibleId).Disjoint (H.accounts.map GatewayUser.ansibleId)) :
    SameGroup w w' H := by
  refine ⟨htouches.serviceId, fun u hu => htouches.account u ?_ ?_⟩
  · exact fun hin => husers hin (List.mem_map_of_mem hu)
  · exact fun hin => hids hin (List.mem_map_of_mem hu)

/-- The keys of the first group are not keys of the others. -/
theorem disjoint_of_nodup_flatMap {κ : Type} {key : GatewayUser → κ}
    (h : (((G :: groups).flatMap UserGroup.accounts).map key).Nodup) :
    (G.accounts.map key).Disjoint ((groups.flatMap UserGroup.accounts).map key) := by
  rw [List.flatMap_cons, List.map_append] at h
  exact List.disjoint_of_nodup_append h

/-- What is disjoint from all groups is disjoint from each. -/
theorem disjoint_group {κ : Type} {key : GatewayUser → κ} {ks : List κ} {H : UserGroup}
    (h : ks.Disjoint ((groups.flatMap UserGroup.accounts).map key)) (hH : H ∈ groups) :
    ks.Disjoint (H.accounts.map key) := by
  intro k hk hin
  refine h hk (List.map_subset _ ?_ hin)
  exact fun u hu => List.mem_flatMap.mpr ⟨H, hH, hu⟩

/-- Merging the first group leaves the later groups as they were. -/
theorem GroupsSetting.sameGroup (h : GroupsSetting w (G :: groups))
    (htouches : TouchesOnly G.accounts w w') {H : UserGroup} (hH : H ∈ groups) :
    SameGroup w w' H :=
  sameGroup_of_touchesOnly htouches (disjoint_group (disjoint_of_nodup_flatMap h.users) hH)
    (disjoint_group (disjoint_of_nodup_flatMap h.ids) hH)

/-- The setting of the groups after the first. -/
theorem GroupsSetting.tail (h : GroupsSetting w (G :: groups))
    (htouches : TouchesOnly G.accounts w w') (hunique : w'.gateway.originalAccounts.Nodup) :
    GroupsSetting w' groups where
  unique := hunique
  users := by
    have husers := h.users
    rw [List.flatMap_cons, List.map_append] at husers
    exact (List.nodup_append.mp husers).2.1
  ids := by
    have hids := h.ids
    rw [List.flatMap_cons, List.map_append] at hids
    exact (List.nodup_append.mp hids).2.1
  partiallyMigrated := by
    intro H hH
    rw [(h.sameGroup htouches hH).isMigrated_eq]
    exact h.partiallyMigrated H (List.mem_cons_of_mem _ hH)
  has_resource := by
    intro H hH
    refine MergeState.exists_resource_of_account ?_ (h.has_resource H (List.mem_cons_of_mem _ hH))
    rw [(h.sameGroup htouches hH).2 H.main List.mem_cons_self]

/-- The condition for the first group and for the others after it was merged. -/
theorem nothingBlocked_cons_iff (hsame : ∀ H ∈ groups, SameGroup w w' H)
    (hclear : ¬Detected env w G) (hmergeable : Mergeable env w G) :
    NothingBlocked env w (G :: groups) ↔ NothingBlocked env w' groups := by
  have hordered : groups.Pairwise (fun H K => Detected env w' H → Detected env w' K) ↔
      groups.Pairwise fun H K => Detected env w H → Detected env w K := by
    refine List.Pairwise.iff_of_mem ?_
    intro H K hH hK
    rw [(hsame H hH).detected_iff, (hsame K hK).detected_iff]
  constructor
  · rintro ⟨hall, hpairs⟩
    refine ⟨fun H hH hclear' => ?_, hordered.mpr (List.pairwise_cons.mp hpairs).2⟩
    rw [(hsame H hH).detected_iff] at hclear'
    exact (hsame H hH).mergeable_iff.mpr (hall H (List.mem_cons_of_mem _ hH) hclear')
  · rintro ⟨hall, hpairs⟩
    refine ⟨List.forall_mem_cons.mpr ⟨fun _ => hmergeable, fun H hH hclear' => ?_⟩,
      List.pairwise_cons.mpr ⟨fun H _ hdetected => absurd hdetected hclear, hordered.mp hpairs⟩⟩
    rw [← (hsame H hH).detected_iff] at hclear'
    exact (hsame H hH).mergeable_iff.mp (hall H hH hclear')

/-- When nothing is blocked, the other groups are merged, and accounts outside the groups are not
touched. -/
theorem othersMerged_of_nothingBlocked (hworks : ¬env.FailsRequest) (total merged : ℕ)
    (hsetting : GroupsSetting w groups) (h : NothingBlocked env w groups) :
    TouchesOnly (groups.flatMap UserGroup.accounts) w
        (mergePartiallyMigratedUsers env total groups merged w).1 ∧
      OthersMerged env w (mergePartiallyMigratedUsers env total groups merged w).1 groups := by
  induction groups generalizing w merged with
  | nil =>
      have hfinal : (mergePartiallyMigratedUsers env total [] merged w).1 = w := by
        unfold mergePartiallyMigratedUsers
        split <;> rfl
      rw [hfinal]
      exact ⟨.refl _ _, fun G hG => absurd hG List.not_mem_nil,
        fun G hG => absurd hG List.not_mem_nil⟩
  | cons G groups ih =>
      rw [mergePartiallyMigratedUsers]
      rcases mergeUserGroup_cases hworks hsetting.unique hsetting.head with
        ⟨hdetected, e, herror⟩ | ⟨hclear, hmergeable, w', n, hok, htouches, hunique, hmerged⟩ |
          ⟨hclear, hnot, -⟩
      · -- The command stops here, and all groups that are left have a conflict.
        rw [herror]
        refine ⟨.refl _ _, ?_, fun _ _ _ _ _ => rfl⟩
        intro H hH hclear
        refine absurd ?_ hclear
        rcases List.mem_cons.mp hH with rfl | hH
        · exact hdetected
        · exact (List.pairwise_cons.mp h.ordered).1 H hH hdetected
      · rw [hok]
        dsimp only
        have hsame : ∀ H ∈ groups, SameGroup w w' H := fun H hH => hsetting.sameGroup htouches hH
        -- The induction hypothesis is about the state after this group, which the others share.
        obtain ⟨hlater, hothers⟩ := ih (merged + n) (hsetting.tail htouches hunique)
          ((nothingBlocked_cons_iff hsame hclear hmergeable).mp h)
        -- What comes later leaves this group as it was merged.
        have hkept := sameGroup_of_touchesOnly hlater
          (disjoint_of_nodup_flatMap hsetting.users).symm
          (disjoint_of_nodup_flatMap hsetting.ids).symm
        refine ⟨?_, ?_, ?_⟩
        · rw [List.flatMap_cons]
          exact htouches.trans hlater
        · refine List.forall_mem_cons.mpr ⟨fun _ => hmerged.of_untouched hkept hlater.sent, ?_⟩
          intro H hH hclear'
          rw [← (hsame H hH).detected_iff] at hclear'
          exact (hsame H hH).fullyMerged_iff.mp (hothers.merged H hH hclear')
        · refine List.forall_mem_cons.mpr ⟨fun hdetected => absurd hdetected hclear, ?_⟩
          intro H hH hdetected u hu
          rw [← (hsame H hH).detected_iff] at hdetected
          exact (hothers.unchanged H hH hdetected u hu).trans ((hsame H hH).2 u hu)
      · exact absurd (h.mergeable G List.mem_cons_self hclear) hnot

/-- When the other groups are merged, nothing was blocked: a group that stops the command and every
group after it are not merged. -/
theorem nothingBlocked_of_othersMerged (hworks : ¬env.FailsRequest) (total merged : ℕ)
    (hsetting : GroupsSetting w groups)
    (h : OthersMerged env w (mergePartiallyMigratedUsers env total groups merged w).1 groups) :
    NothingBlocked env w groups := by
  induction groups generalizing w merged with
  | nil => exact ⟨fun G hG => absurd hG List.not_mem_nil, List.Pairwise.nil⟩
  | cons G groups ih =>
      rw [mergePartiallyMigratedUsers] at h
      rcases mergeUserGroup_cases hworks hsetting.unique hsetting.head with
        ⟨hdetected, e, herror⟩ | ⟨hclear, hmergeable, w', n, hok, htouches, hunique, hmerged⟩ |
          ⟨hclear, -, w', e, herror, hunmigrated⟩
      · rw [herror] at h
        dsimp only at h
        -- A group that is left without a conflict would be migrated, but is not.
        have hall : ∀ H ∈ G :: groups, Detected env w H := by
          intro H hH
          by_contra hclear
          have hmigrated := (h.merged H hH hclear).migrated
          rw [hsetting.partiallyMigrated H hH] at hmigrated
          cases hmigrated
        refine ⟨fun H hH hclear => absurd (hall H hH) hclear, ?_⟩
        exact List.pairwise_of_forall_mem_list fun _ _ K hK _ => hall K hK
      · rw [hok] at h
        dsimp only at h
        have hsame : ∀ H ∈ groups, SameGroup w w' H := fun H hH => hsetting.sameGroup htouches hH
        refine (nothingBlocked_cons_iff hsame hclear hmergeable).mpr
          (ih (merged + n) (hsetting.tail htouches hunique) ⟨?_, ?_⟩)
        · intro H hH hclear'
          rw [(hsame H hH).detected_iff] at hclear'
          exact (hsame H hH).fullyMerged_iff.mpr
            (h.merged H (List.mem_cons_of_mem _ hH) hclear')
        · intro H hH hdetected u hu
          rw [(hsame H hH).detected_iff] at hdetected
          exact (h.unchanged H (List.mem_cons_of_mem _ hH) hdetected u hu).trans
            ((hsame H hH).2 u hu).symm
      · -- The command stops in the middle of this group, which has no conflict.
        rw [herror] at h
        have hmigrated := (h.merged G List.mem_cons_self hclear).migrated
        rw [hunmigrated] at hmigrated
        cases hmigrated

end Groups

/-- While no request to a service fails, the merge of a list of groups leaves the groups with a
detected conflict unchanged and merges every other group to the end, exactly when each of these
can be merged and none of them comes after a group with a detected conflict. -/
theorem mergePartiallyMigratedUsers_iff {env : MergeEnv} (hworks : ¬env.FailsRequest)
    (total : ℕ) {w : MergeState} {groups : List UserGroup} (hsetting : GroupsSetting w groups) :
    OthersMerged env w (mergePartiallyMigratedUsers env total groups 0 w).1 groups ↔
      NothingBlocked env w groups :=
  ⟨nothingBlocked_of_othersMerged hworks total 0 hsetting,
    fun h => (othersMerged_of_nothingBlocked hworks total 0 hsetting h).2⟩

/-- The group of the accounts of one person in the controller and in EDA. -/
def bobGroup : UserGroup := ⟨controllerUser, [edaUser]⟩

/-- Another person whose main account is already linked to EDA, and who has a second account
there. -/
def aliceGroup : UserGroup :=
  ⟨⟨20, "alice", "id-alice"⟩, [⟨21, "eda_alice", "id-eda-alice"⟩]⟩

/-- The accounts of both persons before the merge: the controller is 1, EDA 3. -/
def twoPersons : MergeState where
  gateway :=
    { serviceId := "gateway"
      users := bobGroup.accounts ++ aliceGroup.accounts
      originalAccounts := [(10, 1), (12, 3), (20, 1), (20, 3), (21, 3)]
      authenticatorUsers := [] }
  resources :=
    [⟨10, "controller", true⟩, ⟨12, "eda", true⟩, ⟨20, "controller", true⟩, ⟨21, "eda", true⟩]
  sent := []

/-- The services of `workingServices` fail no request. -/
theorem not_failsRequest_workingServices : ¬workingServices.FailsRequest := by
  rintro ⟨sent, c, hraises⟩
  cases hraises

/-- A conflict is detected in the group of the second person. -/
theorem detected_aliceGroup : Detected workingServices twoPersons aliceGroup :=
  ⟨⟨21, "eda_alice", "id-eda-alice"⟩, by decide, _, rfl⟩

/-- No conflict is detected in the group of the first person. -/
theorem not_detected_bobGroup : ¬Detected workingServices twoPersons bobGroup := by
  rw [detected_iff]
  unfold Gateway.Apart List.Disjoint
  decide

/-- The group without a conflict comes first and is merged; the other one is left as it is. -/
theorem othersMerged_conflictLast :
    OthersMerged workingServices twoPersons (mergePartiallyMigratedUsers workingServices 4
      [bobGroup, aliceGroup] 0 twoPersons).1 [bobGroup, aliceGroup] := by
  have hsetting : GroupsSetting twoPersons [bobGroup, aliceGroup] :=
    ⟨by decide, by decide, by decide, by decide, by decide⟩
  have hmergeable : Mergeable workingServices twoPersons bobGroup :=
    ⟨List.pairwise_singleton _ _, fun _ _ _ _ => ⟨someRoute, rfl⟩⟩
  have hblocked : NothingBlocked workingServices twoPersons [bobGroup, aliceGroup] := by
    refine ⟨?_, ?_⟩
    · intro G hG hclear
      rcases List.mem_cons.mp hG with rfl | hG
      · exact hmergeable
      · rw [List.mem_singleton.mp hG] at hclear
        exact absurd detected_aliceGroup hclear
    · refine List.pairwise_cons.mpr ⟨?_, List.pairwise_singleton _ _⟩
      intro H _ hdetected
      exact absurd hdetected not_detected_bobGroup
  exact (mergePartiallyMigratedUsers_iff not_failsRequest_workingServices 4 hsetting).mpr hblocked

/-- The group with the conflict comes first: the exception ends the command, and the group without
a conflict is not merged. -/
theorem not_othersMerged_conflictFirst :
    GroupsSetting twoPersons [aliceGroup, bobGroup] ∧
      Detected workingServices twoPersons aliceGroup ∧
      ¬Detected workingServices twoPersons bobGroup ∧
      ¬OthersMerged workingServices twoPersons (mergePartiallyMigratedUsers workingServices 4
        [aliceGroup, bobGroup] 0 twoPersons).1 [aliceGroup, bobGroup] := by
  refine ⟨⟨by decide, by decide, by decide, by decide, by decide⟩, detected_aliceGroup,
    not_detected_bobGroup, ?_⟩
  intro h
  have hmigrated := (h.merged bobGroup (by decide) not_detected_bobGroup).migrated
  exact absurd hmigrated (by decide)

end AapGateway.Migration
