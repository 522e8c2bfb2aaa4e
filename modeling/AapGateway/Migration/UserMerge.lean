import AapGateway.Migration.LinkAccount
import AapGateway.Routes.OneServiceRoute

/-!
# Merging a group of accounts

`_merge_user_group` merges the accounts of one person into the first of them. It validates the
group first: `can_accounts_be_merged` is asked about each account, and raises when the main
account already has a migrated account from one of its services. Then the accounts are linked one
after the other, and the main account is migrated.

Each check compares an account with the services the main account has at that time. While the
accounts are linked, the main account collects their services, so two accounts of one service pass
validation and the second link breaks the unique `(user, service)` pair, after the calls for the
first have reached the services.

The accounts of a group come from other services, so the system user, whose deletion raises, is
not among them.

## Main definitions

* `MergeEnv`: the lookups and the answers of the services during a merge;
* `MergeState.linkAccount` and `MergeState.migrateAccount`: the two steps on one account;
* `mergeUserGroup`: `_merge_user_group`;
* `Gateway.Apart`: two accounts have no service in common.

## Main results

* `linkAccount_cases`: how the link of one account ends, and when;
* `linkAll_integrity_iff`: after validation, the merge phase never breaks the unique pair exactly
  when the merged accounts have no service in common.
-/

namespace AapGateway.Migration

/-- The data of a user that `migrate_account` sends besides its name. -/
structure UserNames where
  firstName : String
  lastName : String
  email : String
  deriving DecidableEq, Repr

/-- The requests of a merge: those of `link_account` and those of `migrate_account`. -/
inductive MergeCall where
  | link (c : Call)
  /-- The update that marks the account fully migrated. -/
  | migrate (service : ℕ) (ansibleId serviceId username : String) (names : UserNames)
  deriving DecidableEq, Repr

/-- The account a request is about. -/
def MergeCall.ansibleId : MergeCall → String
  | .link (.deleteResource _ ansibleId) => ansibleId
  | .link (.updateResource _ ansibleId _) => ansibleId
  | .migrate _ ansibleId _ _ _ => ansibleId

/-- How a merge raises. -/
inductive MergeError where
  /-- `DRFValidationError` of `can_accounts_be_merged`. -/
  | validation (message : String)
  /-- `ServiceAPIRoute.objects.get` does not find one route. -/
  | lookup (e : LookupError)
  /-- `IntegrityError` of the unique `(user, service)` pair. -/
  | integrity
  /-- A request to a service fails. -/
  | upstream
  /-- `RuntimeError` at the end of the command. -/
  | notAllMerged (message : String)
  deriving DecidableEq, Repr

/-- What a merge asks for: the API route of a service, whether a request raises after the requests
sent before it, and the data of services and users that it only passes on. -/
structure MergeEnv where
  getServiceAPIRoute : ℕ → Except LookupError (Route ℕ)
  raises : List MergeCall → MergeCall → Bool
  serviceTypeName : ℕ → String
  names : GatewayUser → UserNames

/-- The registry data of a user. -/
structure UserResource where
  user : ℕ
  serviceId : String
  isPartiallyMigrated : Bool
  deriving DecidableEq, Repr

/-- The tables of the gateway and the requests that were sent. -/
structure MergeState where
  gateway : Gateway
  resources : List UserResource
  sent : List MergeCall
  deriving DecidableEq, Repr

/-- The state a step leaves, and its result or what it raises. -/
abbrev MergeResult (α : Type) := MergeState × Except MergeError α

/-- A group of correlated accounts: the account of the first service is the main one. -/
structure UserGroup where
  main : GatewayUser
  others : List GatewayUser
  deriving DecidableEq, Repr

/-- The accounts of a group. -/
def UserGroup.accounts (G : UserGroup) : List GatewayUser :=
  G.main :: G.others

/-- The text of the error for a service that the main account is already linked to. -/
def alreadyLinked (username serviceType : String) : String :=
  "Account " ++ username ++ " has already been linked to an account from " ++ serviceType ++
    ". Only one migrated account from each service may be linked."

/-- `can_accounts_be_merged`. -/
def canAccountsBeMerged (serviceTypeName : ℕ → String) (g : Gateway)
    (main toMerge : GatewayUser) : Except MergeError Bool :=
  -- The error for an account that is merged with itself is constructed, but not raised.
  match (g.originalServices toMerge).find? (g.originalServices main).contains with
  | some service => .error (.validation (alreadyLinked main.username (serviceTypeName service)))
  | none => .ok true

/-- The validation phase: the accounts for which the check is false. -/
def mergeConflicts (serviceTypeName : ℕ → String) (g : Gateway) (main : GatewayUser) :
    List GatewayUser → Except MergeError (List GatewayUser)
  | [] => .ok []
  | u :: us =>
    match canAccountsBeMerged serviceTypeName g main u with
    | .error e => .error e
    | .ok canBeMerged =>
      match mergeConflicts serviceTypeName g main us with
      | .error e => .error e
      | .ok conflicts => .ok (if canBeMerged then conflicts else u :: conflicts)

section Steps

variable (env : MergeEnv)

/-- The loop of `link_account` over the migrated accounts: find the API route of the service and
save the row for the main account. -/
def moveAccounts (main toMerge : GatewayUser) :
    List ℕ → List (ℕ × ℕ) → Except MergeError (List (ℕ × ℕ))
  | [], rows => .ok rows
  | s :: services, rows =>
    match env.getServiceAPIRoute s with
    | .error e => .error (.lookup e)
    | .ok _ =>
      if (main.pk, s) ∈ rows then .error .integrity
      else
        moveAccounts main toMerge services
          (rows.map fun r => if r = (toMerge.pk, s) then (main.pk, s) else r)

/-- Send requests until one raises. -/
def sendAll : List MergeCall → List MergeCall → List MergeCall × Except MergeError Unit
  | [], sent => (sent, .ok ())
  | c :: cs, sent =>
    if env.raises sent c then (sent ++ [c], .error .upstream) else sendAll cs (sent ++ [c])

/-- The loop of `migrate_account` over the migrated accounts. -/
def migrateServices (call : ℕ → MergeCall) :
    List ℕ → List MergeCall → List MergeCall × Except MergeError Unit
  | [], sent => (sent, .ok ())
  | s :: services, sent =>
    match env.getServiceAPIRoute s with
    | .error e => (sent, .error (.lookup e))
    | .ok _ =>
      if env.raises sent (call s) then (sent ++ [call s], .error .upstream)
      else migrateServices call services (sent ++ [call s])

namespace MergeState

/-- `User.is_migrated`. -/
def isMigrated (w : MergeState) (u : GatewayUser) : Bool :=
  w.resources.any fun r => r.user = u.pk && r.serviceId = w.gateway.serviceId

/-- `link_account` with `preserve_authenticators=False`. Deleting the user deletes its
authenticator users and its resource. -/
def linkAccount (w : MergeState) (main toMerge : GatewayUser) : MergeResult Unit :=
  if main.pk = toMerge.pk then (w, .ok ())
  else
    let services := w.gateway.originalServices toMerge
    match moveAccounts env main toMerge services w.gateway.originalAccounts with
    | .error e => (w, .error e)
    | .ok rows =>
      match sendAll env
          ((services.flatMap (w.gateway.serviceCalls main toMerge)).map .link) w.sent with
      -- The transaction is rolled back, the requests are not.
      | (sent, .error e) => ({ w with sent }, .error e)
      | (sent, .ok _) =>
        ({ gateway :=
            { w.gateway with
              users := w.gateway.users.filter fun u => u.pk ≠ toMerge.pk
              originalAccounts := rows.filter fun r => r.1 ≠ toMerge.pk
              authenticatorUsers :=
                w.gateway.authenticatorUsers.filter fun r => r.1 ≠ toMerge.pk }
           resources := w.resources.filter fun r => r.user ≠ toMerge.pk
           sent }, .ok ())

/-- The request of `migrate_account` to a service. -/
def migrateCall (w : MergeState) (u : GatewayUser) (service : ℕ) : MergeCall :=
  .migrate service u.ansibleId w.gateway.serviceId u.username (env.names u)

/-- `migrate_account`. -/
def migrateAccount (w : MergeState) (u : GatewayUser) : MergeResult Unit :=
  if w.isMigrated u then (w, .ok ())
  else
    match migrateServices env (w.migrateCall env u) (w.gateway.originalServices u) w.sent with
    | (sent, .error e) => ({ w with sent }, .error e)
    | (sent, .ok _) =>
      ({ w with
          resources := w.resources.map fun r =>
            if r.user = u.pk then
              { r with serviceId := w.gateway.serviceId, isPartiallyMigrated := false }
            else r
          sent }, .ok ())

end MergeState

/-- The merge phase: link the accounts in order. -/
def linkAll (main : GatewayUser) : List GatewayUser → MergeState → MergeResult Unit
  | [], w => (w, .ok ())
  | u :: us, w =>
    match w.linkAccount env main u with
    | (w', .error e) => (w', .error e)
    | (w', .ok _) => linkAll main us w'

/-- `_merge_user_group`: the number of accounts that were merged, the main account included. -/
def mergeUserGroup (w : MergeState) (G : UserGroup) : MergeResult ℕ :=
  match mergeConflicts env.serviceTypeName w.gateway G.main G.others with
  | .error e => (w, .error e)
  | .ok conflicts =>
    if conflicts ≠ [] then (w, .ok 0)
    else
      match linkAll env G.main G.others w with
      | (w', .error e) => (w', .error e)
      | (w', .ok _) =>
        match w'.migrateAccount env G.main with
        | (w'', .error e) => (w'', .error e)
        | (w'', .ok _) => (w'', .ok (G.others.length + 1))

end Steps

/-! ## The services of accounts -/

namespace Gateway

/-- The two accounts have no service in common. -/
def Apart (g : Gateway) (u v : GatewayUser) : Prop :=
  (g.originalServices u).Disjoint (g.originalServices v)

/-- A service of an account is a row of the table. -/
theorem mem_originalServices {g : Gateway} {u : GatewayUser} {s : ℕ} :
    s ∈ g.originalServices u ↔ (u.pk, s) ∈ g.originalAccounts := by
  unfold originalServices
  rw [List.mem_map]
  constructor
  · rintro ⟨⟨pk, s'⟩, hr, rfl⟩
    obtain ⟨hmem, hpk⟩ := List.mem_filter.mp hr
    rw [← of_decide_eq_true hpk]
    exact hmem
  · intro hr
    exact ⟨(u.pk, s), List.mem_filter.mpr ⟨hr, decide_eq_true rfl⟩, rfl⟩

/-- The rows of an account that is not repointed stay as they are. -/
theorem filter_repoint {main toMerge u : GatewayUser} (hmain : u.pk ≠ main.pk)
    (hmerge : u.pk ≠ toMerge.pk) (rows : List (ℕ × ℕ)) :
    (repoint main toMerge rows).filter (fun r => r.1 = u.pk) =
      rows.filter fun r => r.1 = u.pk := by
  induction rows with
  | nil => rfl
  | cons r rows ih =>
      show List.filter _ ((if r.1 = toMerge.pk then (main.pk, r.2) else r) ::
        repoint main toMerge rows) = _
      by_cases hr : r.1 = toMerge.pk
      · have hne : ¬r.1 = u.pk := fun h => hmerge (h.symm.trans hr)
        rw [if_pos hr, List.filter_cons_of_neg (by simpa using Ne.symm hmain), ih,
          List.filter_cons_of_neg (by simpa using hne)]
      · rw [if_neg hr, List.filter_cons, List.filter_cons, ih]

/-- After a merge the main account has the services of both accounts. -/
theorem mem_repoint_main {main toMerge : GatewayUser} {rows : List (ℕ × ℕ)} {s : ℕ} :
    (main.pk, s) ∈ repoint main toMerge rows ↔
      (main.pk, s) ∈ rows ∨ (toMerge.pk, s) ∈ rows := by
  unfold repoint
  rw [List.mem_map]
  constructor
  · rintro ⟨r, hr, heq⟩
    split at heq
    · rename_i hpk
      right
      have hs : r.2 = s := congrArg Prod.snd heq
      rwa [← hpk, ← hs]
    · exact Or.inl (heq ▸ hr)
  · rintro (hr | hr)
    · by_cases hpk : main.pk = toMerge.pk
      · exact ⟨(main.pk, s), hr, by rw [if_pos hpk]⟩
      · exact ⟨(main.pk, s), hr, by rw [if_neg hpk]⟩
    · exact ⟨(toMerge.pk, s), hr, by rw [if_pos rfl]⟩

/-- A merge leaves no row of the merged account. -/
theorem ne_of_mem_repoint {main toMerge : GatewayUser} (hpk : main.pk ≠ toMerge.pk)
    {rows : List (ℕ × ℕ)} {r : ℕ × ℕ} (h : r ∈ repoint main toMerge rows) :
    r.1 ≠ toMerge.pk := by
  obtain ⟨r', -, rfl⟩ := List.mem_map.mp h
  split
  · exact hpk
  · assumption

/-- The pairs of user and service stay distinct when the two accounts have no service in
common. -/
theorem nodup_repoint {main toMerge : GatewayUser} {rows : List (ℕ × ℕ)} (hnodup : rows.Nodup)
    (hfree : ∀ s, (toMerge.pk, s) ∈ rows → (main.pk, s) ∉ rows) :
    (repoint main toMerge rows).Nodup := by
  refine List.Nodup.map_on ?_ hnodup
  rintro ⟨a, s⟩ ha ⟨b, s'⟩ hb heq
  -- Two rows that become one are a row of each account, for one service.
  by_cases hta : a = toMerge.pk <;> by_cases htb : b = toMerge.pk
  · simp_all
  · rw [if_pos hta, if_neg htb] at heq
    obtain ⟨rfl, rfl⟩ := Prod.mk.inj heq
    exact absurd hb (hfree s (hta ▸ ha))
  · rw [if_neg hta, if_pos htb] at heq
    obtain ⟨rfl, rfl⟩ := Prod.mk.inj heq
    exact absurd ha (hfree s (htb ▸ hb))
  · rwa [if_neg hta, if_neg htb] at heq

/-- What a merge does to the services of the accounts: another account keeps its own, and the
main account gets those of the merged one. -/
theorem originalServices_merge {g : Gateway} {main toMerge u : GatewayUser}
    (hmain : u.pk ≠ main.pk) (hmerge : u.pk ≠ toMerge.pk) :
    (g.merge main toMerge false).originalServices u = g.originalServices u := by
  show ((repoint main toMerge g.originalAccounts).filter _).map _ = _
  rw [filter_repoint hmain hmerge]
  rfl

/-- So it is with all accounts that are neither of the two. -/
theorem originalServices_merge_of_mem {g : Gateway} {main toMerge : GatewayUser}
    {us : List GatewayUser} (hmain : main.pk ∉ us.map GatewayUser.pk)
    (hmerge : toMerge.pk ∉ us.map GatewayUser.pk) {v : GatewayUser} (hv : v ∈ us) :
    (g.merge main toMerge false).originalServices v = g.originalServices v := by
  refine originalServices_merge ?_ ?_
  · exact fun h => hmain (h ▸ List.mem_map_of_mem hv)
  · exact fun h => hmerge (h ▸ List.mem_map_of_mem hv)

@[inherit_doc originalServices_merge]
theorem mem_originalServices_merge {g : Gateway} {main toMerge : GatewayUser} {s : ℕ} :
    s ∈ (g.merge main toMerge false).originalServices main ↔
      s ∈ g.originalServices main ∨ s ∈ g.originalServices toMerge := by
  rw [mem_originalServices, mem_originalServices, mem_originalServices]
  exact mem_repoint_main

/-- The main account can be linked to all of the accounts: none has a service of the main account,
and no two of them have a service in common. -/
def Clean (g : Gateway) (main : GatewayUser) (others : List GatewayUser) : Prop :=
  (∀ u ∈ others, g.Apart main u) ∧ others.Pairwise g.Apart

/-- Linking the first account leaves the others clean exactly when all were clean and the first
does not conflict with the main account. -/
theorem clean_cons_iff {g : Gateway} {main u : GatewayUser} {us : List GatewayUser}
    (hpk : main.pk ∉ us.map GatewayUser.pk) (hu : u.pk ∉ us.map GatewayUser.pk) :
    g.Clean main (u :: us) ↔ g.Apart main u ∧ (g.merge main u false).Clean main us := by
  have hkeep : ∀ v ∈ us, (g.merge main u false).originalServices v = g.originalServices v :=
    fun v hv => originalServices_merge_of_mem hpk hu hv
  -- The main account takes over the services of the first, so that it conflicts with what did.
  have hmain : ∀ v ∈ us, (g.merge main u false).Apart main v ↔ g.Apart main v ∧ g.Apart u v := by
    intro v hv
    unfold Apart List.Disjoint
    rw [hkeep v hv]
    simp only [mem_originalServices_merge]
    constructor
    · intro h
      exact ⟨fun s hs => h (Or.inl hs), fun s hs => h (Or.inr hs)⟩
    · rintro ⟨hold, hnew⟩ s (hs | hs)
      · exact hold hs
      · exact hnew hs
  have hpairs : us.Pairwise (g.merge main u false).Apart ↔ us.Pairwise g.Apart := by
    refine List.Pairwise.iff_of_mem ?_
    intro v v' hv hv'
    unfold Apart
    rw [hkeep v hv, hkeep v' hv']
  unfold Clean
  rw [hpairs, List.forall_mem_cons, List.pairwise_cons]
  constructor
  · rintro ⟨⟨hu, hus⟩, huv, hpair⟩
    exact ⟨hu, fun v hv => (hmain v hv).mpr ⟨hus v hv, huv v hv⟩, hpair⟩
  · rintro ⟨hu, hus, hpair⟩
    exact ⟨⟨hu, fun v hv => ((hmain v hv).mp (hus v hv)).1⟩,
      fun v hv => ((hmain v hv).mp (hus v hv)).2, hpair⟩

end Gateway

/-! ## One account -/

/-- Each service of each account has one API route. -/
def Routed (env : MergeEnv) (g : Gateway) (us : List GatewayUser) : Prop :=
  ∀ u ∈ us, ∀ s ∈ g.originalServices u, ∃ route, env.getServiceAPIRoute s = .ok route

/-- The environment fails a request. -/
def MergeEnv.FailsRequest (env : MergeEnv) : Prop :=
  ∃ sent c, env.raises sent c = true

namespace MergeState

/-- The state after an account is linked. -/
def linked (w : MergeState) (main toMerge : GatewayUser) : MergeState where
  gateway := w.gateway.merge main toMerge false
  resources := w.resources.filter fun r => r.user ≠ toMerge.pk
  sent := w.sent ++ ((w.gateway.originalServices toMerge).flatMap
    (w.gateway.serviceCalls main toMerge)).map .link

end MergeState

section OneAccount

variable (env : MergeEnv) {main toMerge : GatewayUser}

/-- How the loop over the migrated accounts ends: all rows are saved for the main account, a
lookup fails, or the main account already has one of the services. -/
theorem moveAccounts_cases (hpk : main.pk ≠ toMerge.pk) {services : List ℕ}
    (hnodup : services.Nodup) (rows : List (ℕ × ℕ)) :
    (moveAccounts env main toMerge services rows =
          .ok (rows.map fun r =>
            if r.1 = toMerge.pk ∧ r.2 ∈ services then (main.pk, r.2) else r) ∧
        ∀ s ∈ services, (main.pk, s) ∉ rows ∧ ∃ route, env.getServiceAPIRoute s = .ok route) ∨
      (∃ e, moveAccounts env main toMerge services rows = .error (.lookup e) ∧
        ∃ s ∈ services, env.getServiceAPIRoute s = .error e) ∨
      (moveAccounts env main toMerge services rows = .error .integrity ∧
        ∃ s ∈ services, (main.pk, s) ∈ rows) := by
  induction services generalizing rows with
  | nil => simp [moveAccounts]
  | cons s services ih =>
      obtain ⟨hs, hnodup⟩ := List.nodup_cons.mp hnodup
      cases hroute : env.getServiceAPIRoute s with
      | error e =>
          refine Or.inr (Or.inl ⟨e, ?_, s, List.mem_cons_self, hroute⟩)
          rw [moveAccounts, hroute]
      | ok route =>
          by_cases htaken : (main.pk, s) ∈ rows
          · refine Or.inr (Or.inr ⟨?_, s, List.mem_cons_self, htaken⟩)
            simp [moveAccounts, hroute, htaken]
          · have hstep : moveAccounts env main toMerge (s :: services) rows =
                moveAccounts env main toMerge services
                  (rows.map fun r => if r = (toMerge.pk, s) then (main.pk, s) else r) := by
              simp [moveAccounts, hroute, htaken]
            -- The save adds one row of the main account, for a service that does not come again.
            have hrows : ∀ s' ∈ services,
                (main.pk, s') ∈ (rows.map fun r =>
                  if r = (toMerge.pk, s) then (main.pk, s) else r) ↔ (main.pk, s') ∈ rows := by
              intro s' hs'
              have hne : s' ≠ s := fun h => hs (h ▸ hs')
              rw [List.mem_map]
              constructor
              · rintro ⟨r, hr, heq⟩
                split at heq
                · exact absurd (congrArg Prod.snd heq).symm hne
                · exact heq ▸ hr
              · intro hr
                refine ⟨_, hr, if_neg ?_⟩
                exact fun h => hpk (congrArg Prod.fst h)
            rw [hstep]
            rcases ih hnodup (rows.map fun r =>
                if r = (toMerge.pk, s) then (main.pk, s) else r) with
              ⟨hok, hall⟩ | ⟨e, herror, s', hs', he⟩ | ⟨herror, s', hs', hin⟩
            · left
              constructor
              · -- The row of this service is moved first, the others by the rest of the loop.
                rw [hok, List.map_map]
                congr 1
                refine List.map_congr_left fun r _ => ?_
                rcases r with ⟨a, s'⟩
                by_cases ha : a = toMerge.pk <;> by_cases hs' : s' = s <;>
                  simp [ha, hs', hpk]
              · rintro s' (_ | ⟨_, hs'⟩)
                · exact ⟨htaken, route, hroute⟩
                · exact ⟨fun h => (hall s' hs').1 ((hrows s' hs').mpr h), (hall s' hs').2⟩
            · exact Or.inr (Or.inl ⟨e, herror, s', List.mem_cons_of_mem _ hs', he⟩)
            · exact Or.inr (Or.inr
                ⟨herror, s', List.mem_cons_of_mem _ hs', (hrows s' hs').mp hin⟩)

/-- Requests are all sent, or one of them raises. -/
theorem sendAll_cases (cs sent : List MergeCall) :
    sendAll env cs sent = (sent ++ cs, .ok ()) ∨
      env.FailsRequest ∧ ∃ sent', sendAll env cs sent = (sent', .error .upstream) := by
  induction cs generalizing sent with
  | nil => simp [sendAll]
  | cons c cs ih =>
      cases hraises : env.raises sent c with
      | true => exact Or.inr ⟨⟨sent, c, hraises⟩, sent ++ [c], by simp [sendAll, hraises]⟩
      | false =>
          have hstep : sendAll env (c :: cs) sent = sendAll env cs (sent ++ [c]) := by
            simp [sendAll, hraises]
          rw [hstep]
          rcases ih (sent ++ [c]) with hok | hfails
          · left
            rw [hok, List.append_assoc]
            rfl
          · exact Or.inr hfails

/-- How linking an account ends: it is linked, which needs the API routes of its services and no
service of the main account; or a lookup fails, the unique pair is broken, or a request raises. -/
theorem linkAccount_cases (hpk : main.pk ≠ toMerge.pk) {w : MergeState}
    (hnodup : w.gateway.originalAccounts.Nodup) :
    (w.linkAccount env main toMerge = (w.linked main toMerge, .ok ()) ∧
        w.gateway.Apart main toMerge ∧ Routed env w.gateway [toMerge]) ∨
      (∃ e, w.linkAccount env main toMerge = (w, .error (.lookup e)) ∧
        ¬Routed env w.gateway [toMerge]) ∨
      (w.linkAccount env main toMerge = (w, .error .integrity) ∧
        ¬w.gateway.Apart main toMerge) ∨
      (env.FailsRequest ∧ ∃ sent,
        w.linkAccount env main toMerge = ({ w with sent }, .error .upstream)) := by
  have hservices := Gateway.nodup_originalServices hnodup toMerge
  unfold MergeState.linkAccount
  rw [if_neg hpk]
  dsimp only
  rcases moveAccounts_cases env hpk hservices w.gateway.originalAccounts with
    ⟨hok, hall⟩ | ⟨e, herror, s, hs, he⟩ | ⟨herror, s, hs, hin⟩
  · -- Every row of the merged account has one of its services, so all of them are repointed.
    have hrepoint : (w.gateway.originalAccounts.map fun r =>
        if r.1 = toMerge.pk ∧ r.2 ∈ w.gateway.originalServices toMerge then (main.pk, r.2) else r) =
          Gateway.repoint main toMerge w.gateway.originalAccounts := by
      refine List.map_congr_left fun r hr => ?_
      by_cases hr' : r.1 = toMerge.pk
      · have hs : r.2 ∈ w.gateway.originalServices toMerge := by
          rw [Gateway.mem_originalServices, ← hr']
          exact hr
        rw [if_pos ⟨hr', hs⟩, if_pos hr']
      · rw [if_neg (fun h => hr' h.1), if_neg hr']
    have hkept : (Gateway.repoint main toMerge w.gateway.originalAccounts).filter
        (fun r => r.1 ≠ toMerge.pk) =
          Gateway.repoint main toMerge w.gateway.originalAccounts := by
      rw [List.filter_eq_self]
      exact fun r hr => decide_eq_true (Gateway.ne_of_mem_repoint hpk hr)
    rw [hok, hrepoint]
    dsimp only
    rcases sendAll_cases env (((w.gateway.originalServices toMerge).flatMap
        (w.gateway.serviceCalls main toMerge)).map .link) w.sent with hsent | ⟨hfails, sent, hsent⟩
    · left
      rw [hsent]
      refine ⟨?_, ?_, ?_⟩
      · dsimp only
        rw [hkept]
        rfl
      · intro s hmain hmerge
        exact (hall s hmerge).1 (Gateway.mem_originalServices.mp hmain)
      · intro u hu s hs
        rw [List.mem_singleton.mp hu] at hs
        exact (hall s hs).2
    · right; right; right
      rw [hsent]
      exact ⟨hfails, sent, rfl⟩
  · -- The lookup that failed is for a service of the merged account.
    right; left
    rw [herror]
    refine ⟨e, rfl, ?_⟩
    intro hrouted
    obtain ⟨route, hroute⟩ := hrouted toMerge (List.mem_singleton_self _) s hs
    rw [he] at hroute
    cases hroute
  · right; right; left
    rw [herror]
    refine ⟨rfl, ?_⟩
    intro hapart
    exact hapart (Gateway.mem_originalServices.mpr hin) hs

end OneAccount

/-! ## The merge phase -/

/-- The accounts of a group are different users. -/
def Distinct (main : GatewayUser) (others : List GatewayUser) : Prop :=
  ((main :: others).map GatewayUser.pk).Nodup

/-- Linking the first account leaves different users, and rows that are still distinct. -/
theorem Distinct.cons {main u : GatewayUser} {us : List GatewayUser}
    (h : Distinct main (u :: us)) :
    main.pk ≠ u.pk ∧ main.pk ∉ us.map GatewayUser.pk ∧ u.pk ∉ us.map GatewayUser.pk ∧
      Distinct main us := by
  obtain ⟨hmain, hrest⟩ := List.nodup_cons.mp h
  obtain ⟨hu, hus⟩ := List.nodup_cons.mp hrest
  rw [List.map_cons, List.mem_cons, not_or] at hmain
  exact ⟨hmain.1, hmain.2, hu, List.nodup_cons.mpr ⟨hmain.2, hus⟩⟩

/-- The unique pair still holds after a link. -/
theorem nodup_linked {w : MergeState} {main toMerge : GatewayUser}
    (hnodup : w.gateway.originalAccounts.Nodup) (hapart : w.gateway.Apart main toMerge) :
    (w.linked main toMerge).gateway.originalAccounts.Nodup := by
  refine Gateway.nodup_repoint hnodup fun s hmerge hmain => ?_
  exact hapart (Gateway.mem_originalServices.mpr hmain) (Gateway.mem_originalServices.mpr hmerge)

/-- The lookups of the other accounts stay what they were when the first is linked. -/
theorem routed_cons_iff {env : MergeEnv} {w : MergeState} {main u : GatewayUser}
    {us : List GatewayUser} (hpk : main.pk ∉ us.map GatewayUser.pk)
    (hu : u.pk ∉ us.map GatewayUser.pk) :
    Routed env w.gateway (u :: us) ↔
      Routed env w.gateway [u] ∧ Routed env (w.linked main u).gateway us := by
  have hkeep : ∀ v ∈ us, (w.linked main u).gateway.originalServices v =
      w.gateway.originalServices v :=
    fun v hv => Gateway.originalServices_merge_of_mem hpk hu hv
  unfold Routed
  rw [List.forall_mem_cons, List.forall_mem_singleton]
  refine and_congr_right fun _ => ?_
  constructor
  · intro h v hv s hs
    exact h v hv s (hkeep v hv ▸ hs)
  · intro h v hv s hs
    exact h v hv s ((hkeep v hv).symm ▸ hs)

/-- How the merge phase ends, from the first account on. -/
theorem linkAll_cases (env : MergeEnv) {main : GatewayUser} {others : List GatewayUser}
    {w : MergeState} (hdistinct : Distinct main others)
    (hnodup : w.gateway.originalAccounts.Nodup) :
    ((linkAll env main others w).2 = .ok () ∧ w.gateway.Clean main others ∧
        Routed env w.gateway others) ∨
      (∃ e, (linkAll env main others w).2 = .error (.lookup e) ∧
        ¬Routed env w.gateway others) ∨
      ((linkAll env main others w).2 = .error .integrity ∧ ¬w.gateway.Clean main others) ∨
      (env.FailsRequest ∧ (linkAll env main others w).2 = .error .upstream) := by
  induction others generalizing w with
  | nil => simp [linkAll, Gateway.Clean, Routed]
  | cons u us ih =>
      obtain ⟨hpk, hmain, hu, hrest⟩ := hdistinct.cons
      rw [linkAll, Gateway.clean_cons_iff hmain hu, routed_cons_iff (w := w) hmain hu]
      rcases linkAccount_cases env hpk hnodup with
        ⟨hok, hapart, hrouted⟩ | ⟨e, herror, hnot⟩ | ⟨herror, hnot⟩ | ⟨hfails, sent, herror⟩
      · rw [hok]
        dsimp only
        -- The first account is linked; the rest ends as the induction hypothesis says.
        rcases ih hrest (nodup_linked hnodup hapart) with
          ⟨hok', hclean, hrouted'⟩ | ⟨e, herror, hnot⟩ | ⟨herror, hnot⟩ | ⟨hfails, herror⟩
        · exact Or.inl ⟨hok', ⟨hapart, hclean⟩, hrouted, hrouted'⟩
        · exact Or.inr (Or.inl ⟨e, herror, fun h => hnot h.2⟩)
        · exact Or.inr (Or.inr (Or.inl ⟨herror, fun h => hnot h.2⟩))
        · exact Or.inr (Or.inr (Or.inr ⟨hfails, herror⟩))
      · rw [herror]
        exact Or.inr (Or.inl ⟨e, rfl, fun h => hnot h.1⟩)
      · rw [herror]
        exact Or.inr (Or.inr (Or.inl ⟨rfl, fun h => hnot h.1⟩))
      · rw [herror]
        exact Or.inr (Or.inr (Or.inr ⟨hfails, rfl⟩))

/-- The check passes exactly when the account has no service of the main account. -/
theorem canAccountsBeMerged_cases (serviceTypeName : ℕ → String) (g : Gateway)
    (main toMerge : GatewayUser) :
    (canAccountsBeMerged serviceTypeName g main toMerge = .ok true ∧ g.Apart main toMerge) ∨
      ((∃ message, canAccountsBeMerged serviceTypeName g main toMerge =
          .error (.validation message)) ∧ ¬g.Apart main toMerge) := by
  unfold canAccountsBeMerged
  -- The loop raises at the first service that the main account has too.
  cases hfind : (g.originalServices toMerge).find? (g.originalServices main).contains with
  | none =>
      refine Or.inl ⟨rfl, ?_⟩
      intro s hmain hmerge
      have hnot := List.find?_eq_none.mp hfind s hmerge
      exact hnot (List.contains_iff_mem.mpr hmain)
  | some s =>
      refine Or.inr ⟨⟨_, rfl⟩, ?_⟩
      have hmain : (g.originalServices main).contains s = true := List.find?_some hfind
      intro hapart
      exact hapart (List.contains_iff_mem.mp hmain) (List.mem_of_find?_eq_some hfind)

/-- The validation phase never reports a conflict: it passes for accounts that have no service of
the main account, and raises otherwise. -/
theorem mergeConflicts_cases (serviceTypeName : ℕ → String) (g : Gateway) (main : GatewayUser)
    (others : List GatewayUser) :
    (mergeConflicts serviceTypeName g main others = .ok [] ∧ ∀ u ∈ others, g.Apart main u) ∨
      ((∃ message, mergeConflicts serviceTypeName g main others =
          .error (.validation message)) ∧ ∃ u ∈ others, ¬g.Apart main u) := by
  induction others with
  | nil => exact Or.inl ⟨rfl, fun u hu => absurd hu List.not_mem_nil⟩
  | cons u us ih =>
      rw [mergeConflicts]
      -- A check that does not raise is true, so no account is put into the list.
      rcases canAccountsBeMerged_cases serviceTypeName g main u with
        ⟨hok, hapart⟩ | ⟨⟨message, herror⟩, hnot⟩
      · rw [hok]
        rcases ih with ⟨hrest, hall⟩ | ⟨⟨message, hrest⟩, v, hv, hnot⟩
        · rw [hrest]
          exact Or.inl ⟨rfl, List.forall_mem_cons.mpr ⟨hapart, hall⟩⟩
        · rw [hrest]
          exact Or.inr ⟨⟨message, rfl⟩, v, List.mem_cons_of_mem _ hv, hnot⟩
      · rw [herror]
        exact Or.inr ⟨⟨message, rfl⟩, u, List.mem_cons_self, hnot⟩

/-- The API route of a service, in an environment where each service has one. -/
def someRoute : Route ℕ where
  pk := 1
  name := "service"
  kind := .serviceAPIRoute "service"
  httpPort := 1
  serviceCluster := 1
  servicePort := 443
  isServiceHttps := true
  servicePath := "/api/"
  gatewayPath := "/api/service/"

/-- Every service has one API route, and no request fails. -/
def workingServices : MergeEnv where
  getServiceAPIRoute _ := .ok someRoute
  raises _ _ := false
  serviceTypeName _ := "eda"
  names _ := ⟨"", "", ""⟩

/-- When every check of the validation phase passes, the merge phase never breaks the unique pair
of user and service, whatever the services answer, exactly when no two of the merged accounts
have a service in common. -/
theorem linkAll_integrity_iff {g : Gateway} {main : GatewayUser} {others : List GatewayUser}
    (hunique : g.originalAccounts.Nodup) (hdistinct : Distinct main others)
    (serviceTypeName : ℕ → String)
    (hvalid : ∀ u ∈ others, canAccountsBeMerged serviceTypeName g main u = .ok true) :
    (∀ env w, w.gateway = g → (linkAll env main others w).2 ≠ .error .integrity) ↔
      others.Pairwise g.Apart := by
  have hapart : ∀ u ∈ others, g.Apart main u := by
    intro u hu
    rcases canAccountsBeMerged_cases serviceTypeName g main u with
      ⟨-, hapart⟩ | ⟨⟨message, herror⟩, -⟩
    · exact hapart
    · rw [hvalid u hu] at herror
      cases herror
  constructor
  · intro hsafe
    -- Where every lookup and every request succeeds, only the unique pair can stop the phase.
    rcases linkAll_cases workingServices (w := ⟨g, [], []⟩) hdistinct hunique with
      ⟨-, hclean, -⟩ | ⟨e, -, hnot⟩ | ⟨herror, -⟩ | ⟨⟨sent, c, hraises⟩, -⟩
    · exact hclean.2
    · exact absurd (fun _ _ _ _ => ⟨someRoute, rfl⟩) hnot
    · exact absurd herror (hsafe workingServices ⟨g, [], []⟩ rfl)
    · cases hraises
  · -- The unique pair is broken only where the accounts are not clean.
    rintro hpair env w rfl herror
    rcases linkAll_cases env (w := w) hdistinct hunique with
      ⟨hok, -⟩ | ⟨e, hlookup, -⟩ | ⟨-, hnot⟩ | ⟨-, hupstream⟩
    · rw [hok] at herror
      cases herror
    · rw [hlookup] at herror
      cases herror
    · exact hnot ⟨hapart, hpair⟩
    · rw [hupstream] at herror
      cases herror

/-- The accounts of one person: the main account of the controller, and two accounts whose
prefixes were added when names collided. -/
def controllerUser : GatewayUser := ⟨10, "bob", "id-controller"⟩

@[inherit_doc controllerUser]
def galaxyUser : GatewayUser := ⟨11, "galaxy_bob", "id-galaxy"⟩

@[inherit_doc controllerUser]
def edaUser : GatewayUser := ⟨12, "eda_bob", "id-eda"⟩

/-- The accounts with their services: the controller is 1, the hub 2, EDA 3. The account with the
prefix `galaxy_` comes from the given service. -/
def migratedAccounts (service : ℕ) : Gateway where
  serviceId := "gateway"
  users := [controllerUser, galaxyUser, edaUser]
  originalAccounts := [(10, 1), (11, service), (12, 3)]
  authenticatorUsers := []

/-- Accounts of three services are linked without breaking the unique pair. -/
theorem linkAll_integrity_threeServices :
    (linkAll workingServices controllerUser [galaxyUser, edaUser] ⟨migratedAccounts 2, [], []⟩).2 ≠
      .error .integrity :=
  (linkAll_integrity_iff (g := migratedAccounts 2) (by decide) (by unfold Distinct; decide)
    (fun _ => "eda") (by decide)).mpr (by unfold Gateway.Apart List.Disjoint; decide)
    workingServices ⟨migratedAccounts 2, [], []⟩ rfl

/-- Two accounts of EDA pass validation, and the second link breaks the unique pair after the
requests for the first were sent. -/
theorem linkAll_integrity_twoEdaAccounts :
    (migratedAccounts 3).originalAccounts.Nodup ∧
      Distinct controllerUser [galaxyUser, edaUser] ∧
      (∀ u ∈ [galaxyUser, edaUser],
        canAccountsBeMerged (fun _ => "eda") (migratedAccounts 3) controllerUser u = .ok true) ∧
      (linkAll workingServices controllerUser [galaxyUser, edaUser]
        ⟨migratedAccounts 3, [], []⟩).2 = .error .integrity ∧
      (linkAll workingServices controllerUser [galaxyUser, edaUser]
        ⟨migratedAccounts 3, [], []⟩).1.sent ≠ [] := by
  refine ⟨by decide, by unfold Distinct; decide, by decide, by decide, by decide⟩

end AapGateway.Migration
