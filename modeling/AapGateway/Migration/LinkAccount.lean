import Mathlib

/-!
# Linking accounts

`link_account` merges one gateway user into another. The gateway tables change in a transaction
that is rolled back when anything raises; the accounts in the services change by HTTP calls that
are not. For each service with a migrated account of the merged user, the account of the main
user is deleted upstream, if there is one, and then the account of the merged user is given the
main user's id.

An attempt may fail at any of its calls, before or after the service has applied the call. A
retry starts from the rolled back tables, and so makes all its calls again: on a service that was
finished before, the account to delete is the one that was linked.

## Main definitions

* `linkAccount`: one attempt on the tables and the services;
* `retries`: the states of the services during an attempt and its retries;
* `Preserved`: the accounts of the merged user are all still there.

## Main results

* `preserved_iff`: no account is lost exactly when no attempt applies its first call after an
  earlier failed attempt has applied its first two.
-/

namespace AapGateway.Migration

/-- An account in a service, by the service's own key, with the registry data of its resource. -/
structure Account where
  key : ℕ
  ansibleId : String
  serviceId : String
  isPartiallyMigrated : Bool
  username : String
  deriving DecidableEq, Repr

/-- The accounts of each service. -/
abbrev Upstream := ℕ → List Account

/-- `ResourceRequestBody`. -/
structure ResourceRequestBody where
  ansibleId : String
  serviceId : String
  isPartiallyMigrated : Bool
  username : String
  deriving DecidableEq, Repr

/-- The requests `link_account` sends. -/
inductive Call where
  | deleteResource (service : ℕ) (ansibleId : String)
  | updateResource (service : ℕ) (ansibleId : String) (data : ResourceRequestBody)
  deriving DecidableEq, Repr

/-- The answer of a service that handles a request. -/
inductive Status where
  | ok
  | notFound
  deriving DecidableEq, Repr

/-- Write the data of a request to an account. -/
def Account.patch (a : Account) (data : ResourceRequestBody) : Account where
  key := a.key
  ansibleId := data.ansibleId
  serviceId := data.serviceId
  isPartiallyMigrated := data.isPartiallyMigrated
  username := data.username

/-- The service of a request. -/
def Call.service : Call → ℕ
  | .deleteResource service _ => service
  | .updateResource service _ _ => service

/-- What a service does with a request. -/
def Call.apply (accounts : List Account) : Call → List Account
  | .deleteResource _ ansibleId => accounts.filter fun a => a.ansibleId ≠ ansibleId
  | .updateResource _ ansibleId data =>
    accounts.map fun a => if a.ansibleId = ansibleId then a.patch data else a

/-- What a service answers. -/
def Call.status (accounts : List Account) : Call → Status
  | .deleteResource _ ansibleId =>
    if accounts.any (fun a => a.ansibleId = ansibleId) then .ok else .notFound
  | .updateResource _ ansibleId _ =>
    if accounts.any (fun a => a.ansibleId = ansibleId) then .ok else .notFound

/-- The answer makes `link_account` raise: a missing account is ignored on deletion only. -/
def Call.raises : Call → Status → Bool
  | .deleteResource .., _ => false
  | .updateResource .., .ok => false
  | .updateResource .., .notFound => true

/-- The services after a request. -/
def Upstream.send (up : Upstream) (c : Call) : Upstream :=
  Function.update up c.service (c.apply (up c.service))

/-- The call at which an attempt fails, and whether the service applied it before. -/
structure Fault where
  call : ℕ
  applied : Bool
  deriving DecidableEq, Repr

/-- The fault as seen from the next call on. -/
def Fault.next (f : Fault) : Fault :=
  { f with call := f.call - 1 }

/-- What an attempt does to the services: the states after each of its calls, the last state, and
whether it ran to its end. -/
structure Attempt where
  moments : List Upstream
  final : Upstream
  succeeded : Bool

/-- The calls of an attempt up to its fault, or up to an answer that raises. -/
def perform (fault : Option Fault) : List Call → Upstream → Attempt
  | [], up => ⟨[], up, true⟩
  | c :: cs, up =>
    match fault with
    | some ⟨0, applied⟩ =>
      let up' := if applied then up.send c else up
      ⟨[up'], up', false⟩
    | _ =>
      let up' := up.send c
      if c.raises (c.status (up c.service)) then ⟨[up'], up', false⟩
      else
        let later := perform (fault.map Fault.next) cs up'
        ⟨up' :: later.moments, later.final, later.succeeded⟩

/-- A gateway user with the id of its resource. -/
structure GatewayUser where
  pk : ℕ
  username : String
  ansibleId : String
  deriving DecidableEq, Repr

/-- The gateway tables that `link_account` reads and writes. -/
structure Gateway where
  /-- The gateway's own `service_id()`. -/
  serviceId : String
  users : List GatewayUser
  /-- `MigratedUserMetadata`: the user and the service of each migrated account. -/
  originalAccounts : List (ℕ × ℕ)
  /-- The user and the key of each authenticator user. -/
  authenticatorUsers : List (ℕ × ℕ)
  deriving DecidableEq, Repr

namespace Gateway

/-- The services of `to_merge.original_accounts.all()`. -/
def originalServices (g : Gateway) (user : GatewayUser) : List ℕ :=
  (g.originalAccounts.filter fun a => a.1 = user.pk).map Prod.snd

/-- Saving the accounts for the main user breaks the unique `(user, service)` pair. -/
def conflicts (g : Gateway) (main toMerge : GatewayUser) : Bool :=
  (g.originalServices toMerge).any fun s => (g.originalServices main).contains s

/-- Move the rows of one user to another. -/
def repoint (main toMerge : GatewayUser) (rows : List (ℕ × ℕ)) : List (ℕ × ℕ) :=
  rows.map fun r => if r.1 = toMerge.pk then (main.pk, r.2) else r

/-- The tables `link_account` commits. Deleting the user deletes the rows that still point to it. -/
def merge (g : Gateway) (main toMerge : GatewayUser) (preserveAuthenticators : Bool) : Gateway :=
  { g with
    users := g.users.filter fun u => u.pk ≠ toMerge.pk
    originalAccounts := repoint main toMerge g.originalAccounts
    authenticatorUsers :=
      if preserveAuthenticators then repoint main toMerge g.authenticatorUsers
      else g.authenticatorUsers.filter fun r => r.1 ≠ toMerge.pk }

/-- The call that gives the account of the merged user the main user's id and name. -/
def relabel (g : Gateway) (main toMerge : GatewayUser) (service : ℕ) : Call :=
  .updateResource service toMerge.ansibleId ⟨main.ansibleId, g.serviceId, false, main.username⟩

/-- The calls for one service: references to the main user are cleaned up first. -/
def serviceCalls (g : Gateway) (main toMerge : GatewayUser) (service : ℕ) : List Call :=
  [.deleteResource service main.ansibleId, g.relabel main toMerge service]

/-- The calls of `link_account` without `services_to_merge`: none if the users are the same or
the tables cannot be written. -/
def linkCalls (g : Gateway) (main toMerge : GatewayUser) : List Call :=
  if main.pk = toMerge.pk || g.conflicts main toMerge then []
  else (g.originalServices toMerge).flatMap (g.serviceCalls main toMerge)

end Gateway

/-- `link_account`: the tables change only if nothing raises. -/
def linkAccount (g : Gateway) (main toMerge : GatewayUser) (preserveAuthenticators : Bool)
    (fault : Option Fault) (up : Upstream) : Gateway × Attempt :=
  if main.pk = toMerge.pk then (g, ⟨[], up, true⟩)
  else if g.conflicts main toMerge then (g, ⟨[], up, false⟩)
  else
    let attempt := perform fault (g.linkCalls main toMerge) up
    (if attempt.succeeded then g.merge main toMerge preserveAuthenticators else g, attempt)

/-- The states of the services during attempts that follow each other until one succeeds. -/
def retries (main toMerge : GatewayUser) (preserveAuthenticators : Bool) :
    List (Option Fault) → Gateway → Upstream → List Upstream
  | [], _, _ => []
  | fault :: faults, g, up =>
    let (g', attempt) := linkAccount g main toMerge preserveAuthenticators fault up
    attempt.moments ++
      if attempt.succeeded then []
      else retries main toMerge preserveAuthenticators faults g' attempt.final

/-- Failed attempts, and at the end an attempt without a fault or none. -/
def attempts (failures : List Fault) (isRetriedCleanly : Bool) : List (Option Fault) :=
  failures.map some ++ if isRetriedCleanly then [none] else []

/-- In every service, every account that carried the merged user's id at the start is there,
under that id or under the main user's. -/
def Preserved (main toMerge : GatewayUser) (start up : Upstream) : Prop :=
  ∀ service, ∀ a ∈ start service, a.ansibleId = toMerge.ansibleId →
    ∃ b ∈ up service, b.key = a.key ∧
      (b.ansibleId = toMerge.ansibleId ∨ b.ansibleId = main.ansibleId)

/-- An attempt with this fault applies the call with index `n`. -/
def Applies (n : ℕ) : Option Fault → Prop
  | none => True
  | some f => n < f.call ∨ n = f.call ∧ f.applied = true

/-- No attempt applies its first call after one that applied its first two. -/
def NoRepeatedDelete (faults : List (Option Fault)) : Prop :=
  faults.Pairwise fun f g => ¬ (Applies 1 f ∧ Applies 0 g)

/-! ## One call -/

/-- The account with this key in this service carries this id. -/
def Carries (up : Upstream) (service key : ℕ) (ansibleId : String) : Prop :=
  (∃ a ∈ up service, a.key = key ∧ a.ansibleId = ansibleId) ∧
    ∀ a ∈ up service, a.key = key → a.ansibleId = ansibleId

section OneCall

variable {up : Upstream} {c : Call} {service key : ℕ} {ansibleId : String}

/-- A call changes only the accounts of its own service. -/
theorem send_of_ne (h : service ≠ c.service) : up.send c service = up service :=
  Function.update_of_ne h ..

/-- A call to another service changes nothing. -/
theorem Carries.send_of_ne (h : Carries up service key ansibleId) (hne : service ≠ c.service) :
    Carries (up.send c) service key ansibleId := by
  unfold Carries
  rw [Migration.send_of_ne hne]
  exact h

/-- Deleting the account of another id changes nothing. -/
theorem Carries.delete (h : Carries up service key ansibleId) {service' : ℕ} {other : String}
    (hne : ansibleId ≠ other) :
    Carries (up.send (.deleteResource service' other)) service key ansibleId := by
  by_cases hs : service = service'
  · subst hs
    have hsend : up.send (.deleteResource service other) service =
        (up service).filter fun a => a.ansibleId ≠ other := Function.update_self ..
    obtain ⟨⟨a, ha, hkey, hid⟩, hall⟩ := h
    constructor
    · refine ⟨a, ?_, hkey, hid⟩
      rw [hsend, List.mem_filter]
      exact ⟨ha, by simpa [hid] using hne⟩
    · intro b hb
      rw [hsend] at hb
      exact hall b (List.mem_filter.mp hb).1
  · exact h.send_of_ne hs

/-- Updating the account of an id gives it the id of the request. -/
theorem Carries.update (h : Carries up service key ansibleId) (data : ResourceRequestBody) :
    Carries (up.send (.updateResource service ansibleId data)) service key data.ansibleId := by
  have hsend : up.send (.updateResource service ansibleId data) service =
      (up service).map fun a => if a.ansibleId = ansibleId then a.patch data else a :=
    Function.update_self ..
  obtain ⟨⟨a, ha, hkey, hid⟩, hall⟩ := h
  constructor
  · refine ⟨a.patch data, ?_, hkey, rfl⟩
    rw [hsend, List.mem_map]
    exact ⟨a, ha, by rw [if_pos hid]⟩
  · intro b hb hbkey
    rw [hsend] at hb
    obtain ⟨a', ha', rfl⟩ := List.mem_map.mp hb
    -- The account was one with the key before, so it carried the id and was patched.
    split
    · rfl
    · rename_i hne
      rw [if_neg hne] at hbkey
      exact absurd (hall a' ha' hbkey) hne

/-- Deleting the account that carries the id loses it. -/
theorem Carries.lost (h : Carries up service key ansibleId) :
    ∀ a ∈ up.send (.deleteResource service ansibleId) service, a.key ≠ key := by
  intro a ha hkey
  have hsend : up.send (.deleteResource service ansibleId) service =
      (up service).filter fun a => a.ansibleId ≠ ansibleId := Function.update_self ..
  rw [hsend] at ha
  obtain ⟨hmem, hid⟩ := List.mem_filter.mp ha
  simp [h.2 a hmem hkey] at hid

/-- An update of an account that is there does not raise. -/
theorem not_raises_update (h : Carries up service key ansibleId) (data : ResourceRequestBody) :
    (Call.updateResource service ansibleId data).raises
      ((Call.updateResource service ansibleId data).status (up service)) = false := by
  obtain ⟨⟨a, ha, -, hid⟩, -⟩ := h
  have hany : (up service).any (fun a => a.ansibleId = ansibleId) = true :=
    List.any_eq_true.mpr ⟨a, ha, by simpa using hid⟩
  rw [Call.status, hany]
  rfl

end OneCall

/-! ## One attempt -/

section OneAttempt

variable {fault : Option Fault} {c : Call} {cs : List Call} {up : Upstream}

/-- What the first call of an attempt leads to: the fault, an answer that raises, or the rest of
the calls. -/
theorem perform_cons_cases (fault : Option Fault) (c : Call) (cs : List Call) (up : Upstream) :
    (∃ applied, fault = some ⟨0, applied⟩ ∧
      perform fault (c :: cs) up =
        ⟨[if applied then up.send c else up], if applied then up.send c else up, false⟩) ∨
    (∀ f, fault = some f → f.call ≠ 0) ∧
      (c.raises (c.status (up c.service)) = true ∧
          perform fault (c :: cs) up = ⟨[up.send c], up.send c, false⟩ ∨
        c.raises (c.status (up c.service)) = false ∧
          perform fault (c :: cs) up =
            let later := perform (fault.map Fault.next) cs (up.send c)
            ⟨up.send c :: later.moments, later.final, later.succeeded⟩) := by
  rcases fault with _ | ⟨_ | n, applied⟩
  · right
    refine ⟨(by intro f hf; cases hf), ?_⟩
    cases hraises : c.raises (c.status (up c.service)) <;> simp [perform, hraises]
  · exact Or.inl ⟨applied, rfl, rfl⟩
  · right
    refine ⟨(by intro f hf; cases hf; exact Nat.succ_ne_zero n), ?_⟩
    cases hraises : c.raises (c.status (up c.service)) <;> simp [perform, hraises]

/-- What holds before a call, after it and during the rest of the attempt holds at every moment,
wherever the attempt fails. -/
theorem forall_moments_cons {P : Upstream → Prop} (h₀ : P up) (h₁ : P (up.send c))
    (hlater : ∀ m ∈ (perform (fault.map Fault.next) cs (up.send c)).moments, P m) :
    ∀ m ∈ (perform fault (c :: cs) up).moments, P m := by
  intro m hm
  rcases perform_cons_cases fault c cs up with
    ⟨applied, -, hperform⟩ | ⟨-, ⟨-, hperform⟩ | ⟨-, hperform⟩⟩ <;> rw [hperform] at hm
  · rw [List.mem_singleton.mp hm]
    split
    · exact h₁
    · exact h₀
  · rw [List.mem_singleton.mp hm]
    exact h₁
  · rcases List.mem_cons.mp hm with rfl | hm
    · exact h₁
    · exact hlater m hm

/-- The last state is one of the moments, or the first state. -/
theorem final_eq_or_mem (fault : Option Fault) (cs : List Call) (up : Upstream) :
    (perform fault cs up).final = up ∨
      (perform fault cs up).final ∈ (perform fault cs up).moments := by
  induction cs generalizing fault up with
  | nil => exact Or.inl rfl
  | cons c cs ih =>
      right
      rcases perform_cons_cases fault c cs up with
        ⟨applied, -, hperform⟩ | ⟨-, ⟨-, hperform⟩ | ⟨-, hperform⟩⟩ <;> rw [hperform]
      · exact List.mem_singleton_self _
      · exact List.mem_singleton_self _
      · rcases ih (fault.map Fault.next) (up.send c) with hfinal | hmem
        · show (perform (fault.map Fault.next) cs (up.send c)).final ∈ _
          rw [hfinal]
          exact List.mem_cons_self
        · exact List.mem_cons_of_mem _ hmem

/-- An attempt with a fault at one of its calls fails. -/
theorem succeeded_eq_false {f : Fault} (h : f.call < cs.length) :
    (perform (some f) cs up).succeeded = false := by
  induction cs generalizing f up with
  | nil => exact absurd h (Nat.not_lt_zero _)
  | cons c cs ih =>
      rcases perform_cons_cases (some f) c cs up with
        ⟨applied, -, hperform⟩ | ⟨hne, ⟨-, hperform⟩ | ⟨-, hperform⟩⟩ <;> rw [hperform]
      apply ih
      have hzero : f.call ≠ 0 := hne f rfl
      have hlength : f.call < cs.length + 1 := h
      show f.call - 1 < cs.length
      omega

/-- An attempt that applies its first call passes through the state after it. -/
theorem send_mem_moments (h : Applies 0 fault) :
    up.send c ∈ (perform fault (c :: cs) up).moments := by
  rcases perform_cons_cases fault c cs up with
    ⟨applied, rfl, hperform⟩ | ⟨-, ⟨-, hperform⟩ | ⟨-, hperform⟩⟩ <;> rw [hperform]
  · have happlied : applied = true := by
      rcases h with hlt | ⟨-, happlied⟩
      · exact absurd hlt (Nat.lt_irrefl 0)
      · exact happlied
    simp [happlied]
  · exact List.mem_singleton_self _
  · exact List.mem_cons_self

/-- An attempt that does not apply its first call changes nothing. -/
theorem perform_of_not_applies (h : ¬ Applies 0 fault) :
    perform fault (c :: cs) up = ⟨[up], up, false⟩ := by
  cases fault with
  | none => exact absurd trivial h
  | some f =>
      obtain ⟨call, applied⟩ := f
      have hcall : call = 0 := by
        by_contra hne
        exact h (Or.inl (Nat.pos_of_ne_zero hne))
      have happlied : applied = false := by
        by_contra hne
        exact h (Or.inr ⟨hcall.symm, by simpa using hne⟩)
      rw [hcall, happlied]
      rfl

end OneAttempt

/-! ## The attempts of one link -/

/-- The calls for a list of services, service by service. -/
theorem flatMap_serviceCalls_cons (g : Gateway) (main toMerge : GatewayUser) (service : ℕ)
    (services : List ℕ) :
    (service :: services).flatMap (g.serviceCalls main toMerge) =
      .deleteResource service main.ansibleId :: g.relabel main toMerge service ::
        services.flatMap (g.serviceCalls main toMerge) := rfl

/-- The calls for a service go to it. -/
theorem service_of_mem_serviceCalls {g : Gateway} {main toMerge : GatewayUser} {service : ℕ}
    {c : Call} (h : c ∈ g.serviceCalls main toMerge service) : c.service = service := by
  rcases List.mem_cons.mp h with rfl | h
  · rfl
  · rw [List.mem_singleton.mp h]
    rfl

/-- The users, the tables and the services before the first attempt: users with different keys
have different ids, an account is migrated once per service, a service's own keys are unique, and
the merged user has an account in each of its services. -/
structure Setting (g : Gateway) (main toMerge : GatewayUser) (start : Upstream) : Prop where
  main_mem : main ∈ g.users
  toMerge_mem : toMerge ∈ g.users
  ids_nodup : (g.users.map GatewayUser.ansibleId).Nodup
  accounts_nodup : g.originalAccounts.Nodup
  keys_nodup : ∀ service, ((start service).map Account.key).Nodup
  has_account : ∀ service ∈ g.originalServices toMerge,
    ∃ a ∈ start service, a.ansibleId = toMerge.ansibleId

/-- Users with different keys have different ids. -/
theorem Setting.ids_ne {g : Gateway} {main toMerge : GatewayUser} {start : Upstream}
    (h : Setting g main toMerge start) (hpk : main.pk ≠ toMerge.pk) :
    toMerge.ansibleId ≠ main.ansibleId := by
  intro hid
  exact hpk (congrArg GatewayUser.pk
    (List.inj_on_of_nodup_map h.ids_nodup h.main_mem h.toMerge_mem hid.symm))

/-- The services of an account are distinct when the pairs of user and service are. -/
theorem Gateway.nodup_originalServices {g : Gateway} (h : g.originalAccounts.Nodup)
    (u : GatewayUser) : (g.originalServices u).Nodup := by
  refine List.Nodup.map_on ?_ (h.filter _)
  intro a ha b hb hab
  have hafst : a.1 = u.pk := by simpa using (List.mem_filter.mp ha).2
  have hbfst : b.1 = u.pk := by simpa using (List.mem_filter.mp hb).2
  exact Prod.ext (hafst.trans hbfst.symm) hab

section Phases

variable {g : Gateway} {main toMerge : GatewayUser} {start : Upstream}

/-- The account with this key in this service carried the merged user's id at the start. -/
def Tracked (toMerge : GatewayUser) (start : Upstream) (service key : ℕ) : Prop :=
  ∃ a ∈ start service, a.key = key ∧ a.ansibleId = toMerge.ansibleId

/-- The accounts of a service still carry the merged user's id. -/
def Unlinked (toMerge : GatewayUser) (start : Upstream) (service : ℕ) (up : Upstream) : Prop :=
  ∀ key, Tracked toMerge start service key → Carries up service key toMerge.ansibleId

/-- The accounts of a service carry the main user's id. -/
def Linked (main toMerge : GatewayUser) (start : Upstream) (service : ℕ) (up : Upstream) : Prop :=
  ∀ key, Tracked toMerge start service key → Carries up service key main.ansibleId

/-- At the start no account is linked. -/
theorem unlinked_start (h : Setting g main toMerge start) (service : ℕ) :
    Unlinked toMerge start service start := by
  rintro key ⟨a, ha, hkey, hid⟩
  refine ⟨⟨a, ha, hkey, hid⟩, ?_⟩
  intro b hb hbkey
  rw [List.inj_on_of_nodup_map (h.keys_nodup service) hb ha (hbkey.trans hkey.symm), hid]

/-- Accounts that carry one of the two ids are preserved. -/
theorem preserved_of_phases {up : Upstream}
    (h : ∀ service, Unlinked toMerge start service up ∨ Linked main toMerge start service up) :
    Preserved main toMerge start up := by
  intro service a ha hid
  have htracked : Tracked toMerge start service a.key := ⟨a, ha, rfl, hid⟩
  rcases h service with hphase | hphase
  · obtain ⟨⟨b, hb, hkey, hbid⟩, -⟩ := hphase a.key htracked
    exact ⟨b, hb, hkey, Or.inl hbid⟩
  · obtain ⟨⟨b, hb, hkey, hbid⟩, -⟩ := hphase a.key htracked
    exact ⟨b, hb, hkey, Or.inr hbid⟩

variable {up : Upstream} {service : ℕ} {c : Call}

/-- A call to another service leaves accounts unlinked. -/
theorem Unlinked.send_of_ne (h : Unlinked toMerge start service up) (hne : service ≠ c.service) :
    Unlinked toMerge start service (up.send c) :=
  fun key hkey => (h key hkey).send_of_ne hne

/-- A call to another service leaves accounts linked. -/
theorem Linked.send_of_ne (h : Linked main toMerge start service up) (hne : service ≠ c.service) :
    Linked main toMerge start service (up.send c) :=
  fun key hkey => (h key hkey).send_of_ne hne

/-- Deleting accounts of the main user leaves accounts unlinked. -/
theorem Unlinked.delete (h : Unlinked toMerge start service up)
    (hids : toMerge.ansibleId ≠ main.ansibleId) (service' : ℕ) :
    Unlinked toMerge start service (up.send (.deleteResource service' main.ansibleId)) :=
  fun key hkey => (h key hkey).delete hids

/-- The update links the accounts of its service. -/
theorem Unlinked.update (h : Unlinked toMerge start service up) {data : ResourceRequestBody}
    (hdata : data.ansibleId = main.ansibleId) :
    Linked main toMerge start service
      (up.send (.updateResource service toMerge.ansibleId data)) := by
  intro key hkey
  rw [← hdata]
  exact (h key hkey).update data

/-- Calls to other services leave accounts linked, at the end of an attempt too. -/
theorem Linked.final (h : Linked main toMerge start service up) (fault : Option Fault)
    {cs : List Call} (hcs : ∀ c ∈ cs, service ≠ c.service) :
    Linked main toMerge start service (perform fault cs up).final := by
  have hmoments : ∀ m ∈ (perform fault cs up).moments, Linked main toMerge start service m := by
    induction cs generalizing fault up with
    | nil =>
        intro m hm
        cases hm
    | cons c cs ih =>
        have hc := h.send_of_ne (hcs c List.mem_cons_self)
        exact forall_moments_cons h hc
          (ih hc _ fun c' hc' => hcs c' (List.mem_cons_of_mem _ hc'))
  rcases final_eq_or_mem fault cs up with hfinal | hmem
  · rw [hfinal]
    exact h
  · exact hmoments _ hmem

/-- During an attempt on services that have not been linked, every service is either not linked
or linked, wherever the attempt fails. -/
theorem phases_of_mem_moments (hids : toMerge.ansibleId ≠ main.ansibleId) {services : List ℕ}
    (hnodup : services.Nodup) (fault : Option Fault)
    (hrest : ∀ s ∈ services, Unlinked toMerge start s up)
    (hall : ∀ s, Unlinked toMerge start s up ∨ Linked main toMerge start s up) :
    ∀ m ∈ (perform fault (services.flatMap (g.serviceCalls main toMerge)) up).moments,
      ∀ s, Unlinked toMerge start s m ∨ Linked main toMerge start s m := by
  induction services generalizing fault up with
  | nil =>
      intro m hm
      cases hm
  | cons s₀ services ih =>
      obtain ⟨hs₀, hnodup⟩ := List.nodup_cons.mp hnodup
      have h₀ : Unlinked toMerge start s₀ up := hrest s₀ List.mem_cons_self
      -- After the deletion, and after the update, for the service itself and for the others.
      have hdelete : ∀ s, Unlinked toMerge start s
            (up.send (.deleteResource s₀ main.ansibleId)) ∨
          Linked main toMerge start s (up.send (.deleteResource s₀ main.ansibleId)) := by
        intro s
        by_cases hs : s = s₀
        · rw [hs]
          exact Or.inl (h₀.delete hids s₀)
        · rcases hall s with hphase | hphase
          · exact Or.inl (hphase.delete hids s₀)
          · exact Or.inr (hphase.send_of_ne hs)
      have hupdate : ∀ s, Unlinked toMerge start s
            ((up.send (.deleteResource s₀ main.ansibleId)).send (g.relabel main toMerge s₀)) ∨
          Linked main toMerge start s
            ((up.send (.deleteResource s₀ main.ansibleId)).send (g.relabel main toMerge s₀)) := by
        intro s
        by_cases hs : s = s₀
        · rw [hs]
          exact Or.inr ((h₀.delete hids s₀).update rfl)
        · rcases hdelete s with hphase | hphase
          · exact Or.inl (hphase.send_of_ne hs)
          · exact Or.inr (hphase.send_of_ne hs)
      refine forall_moments_cons hall hdelete (forall_moments_cons hdelete hupdate ?_)
      refine ih hnodup _ ?_ hupdate
      intro s hs
      have hne : s ≠ s₀ := fun heq => hs₀ (heq ▸ hs)
      exact ((hrest s (List.mem_cons_of_mem _ hs)).delete hids s₀).send_of_ne hne

/-- An attempt that applies its first two calls links its first service. -/
theorem linked_final_of_applies (hids : toMerge.ansibleId ≠ main.ansibleId) {s₀ : ℕ}
    {services : List ℕ} (hs₀ : s₀ ∉ services)
    (haccount : ∃ key, Tracked toMerge start s₀ key) {fault : Option Fault}
    (hfault : Applies 1 fault) (h : Unlinked toMerge start s₀ up) :
    Linked main toMerge start s₀
      (perform fault ((s₀ :: services).flatMap (g.serviceCalls main toMerge)) up).final := by
  have hdelete := h.delete hids s₀
  rw [flatMap_serviceCalls_cons]
  rcases perform_cons_cases fault (.deleteResource s₀ main.ansibleId)
      (g.relabel main toMerge s₀ :: services.flatMap (g.serviceCalls main toMerge)) up with
    ⟨applied, rfl, -⟩ | ⟨hne, ⟨hraises, -⟩ | ⟨-, hperform⟩⟩
  · -- A fault at the first call does not get to the second.
    rcases hfault with hlt | ⟨heq, -⟩
    · exact absurd hlt (Nat.not_lt_zero 1)
    · cases heq
  · cases hraises
  · rw [hperform]
    show Linked main toMerge start s₀ (perform (fault.map Fault.next) _ _).final
    rcases perform_cons_cases (fault.map Fault.next) (g.relabel main toMerge s₀)
        (services.flatMap (g.serviceCalls main toMerge))
        (up.send (.deleteResource s₀ main.ansibleId)) with
      ⟨applied, hnext, hperform'⟩ | ⟨-, ⟨hraises, -⟩ | ⟨-, hperform'⟩⟩
    · rw [hperform']
      -- The fault is at the second call, so the service has applied it.
      have happlied : applied = true := by
        obtain ⟨⟨call, fapplied⟩, rfl, hf⟩ := Option.map_eq_some_iff.mp hnext
        obtain ⟨hcall, rfl⟩ := Fault.mk.inj hf
        have hzero : call ≠ 0 := hne _ rfl
        rcases hfault with hlt | ⟨-, happlied⟩
        · simp only at hlt hcall
          omega
        · exact happlied
      show Linked main toMerge start s₀ (if applied then _ else _)
      rw [if_pos happlied]
      exact hdelete.update rfl
    · obtain ⟨key, hkey⟩ := haccount
      have hfalse : (g.relabel main toMerge s₀).raises ((g.relabel main toMerge s₀).status
          (up.send (.deleteResource s₀ main.ansibleId) (g.relabel main toMerge s₀).service)) =
            false := not_raises_update (hdelete key hkey) _
      rw [hfalse] at hraises
      cases hraises
    · rw [hperform']
      refine Linked.final (hdelete.update rfl) _ ?_
      intro c hc
      obtain ⟨s, hs, hcs⟩ := List.mem_flatMap.mp hc
      rw [service_of_mem_serviceCalls hcs]
      exact fun heq => hs₀ (heq ▸ hs)

/-- An attempt that does not apply its first two calls leaves every service unlinked. -/
theorem unlinked_final_of_not_applies (hids : toMerge.ansibleId ≠ main.ansibleId) {s₀ : ℕ}
    {services : List ℕ} {fault : Option Fault} (hfault : ¬ Applies 1 fault)
    (h : ∀ s, Unlinked toMerge start s up) :
    ∀ s, Unlinked toMerge start s
      (perform fault ((s₀ :: services).flatMap (g.serviceCalls main toMerge)) up).final := by
  intro s
  rcases fault with _ | ⟨_ | _ | n, applied⟩
  · exact absurd trivial hfault
  · show Unlinked toMerge start s (if applied then _ else _)
    split
    · exact (h s).delete hids s₀
    · exact h s
  · have happlied : applied = false := by
      by_contra hne
      exact hfault (Or.inr ⟨rfl, by simpa using hne⟩)
    rw [happlied]
    exact (h s).delete hids s₀
  · have hlt : 1 < n + 1 + 1 := by omega
    exact absurd (Or.inl hlt) hfault

/-- An attempt and its retries, when the users differ and the tables can be written. -/
theorem retries_cons {preserveAuthenticators : Bool} {fault : Option Fault}
    {faults : List (Option Fault)} (hpk : main.pk ≠ toMerge.pk)
    (hconflict : g.conflicts main toMerge = false) :
    retries main toMerge preserveAuthenticators (fault :: faults) g up =
      (perform fault (g.linkCalls main toMerge) up).moments ++
        if (perform fault (g.linkCalls main toMerge) up).succeeded then []
        else retries main toMerge preserveAuthenticators faults g
          (perform fault (g.linkCalls main toMerge) up).final := by
  rw [retries, linkAccount, if_neg hpk, if_neg (by rw [hconflict]; decide)]
  -- A failed attempt leaves the tables as they were.
  cases hsucceeded : (perform fault (g.linkCalls main toMerge) up).succeeded <;>
    simp [hsucceeded]

variable {preserveAuthenticators : Bool} {s₀ : ℕ} {services : List ℕ}

/-- Once the first service is linked, its account is lost exactly when an attempt applies its
first call. -/
theorem preserved_iff_of_linked (hpk : main.pk ≠ toMerge.pk)
    (hconflict : g.conflicts main toMerge = false)
    (hcalls : g.linkCalls main toMerge =
      (s₀ :: services).flatMap (g.serviceCalls main toMerge))
    (haccount : ∃ key, Tracked toMerge start s₀ key)
    (hlinked : Linked main toMerge start s₀ up)
    (hphases : ∀ s, Unlinked toMerge start s up ∨ Linked main toMerge start s up)
    (faults : List (Option Fault)) :
    (∀ m ∈ retries main toMerge preserveAuthenticators faults g up,
        Preserved main toMerge start m) ↔ ∀ f ∈ faults, ¬ Applies 0 f := by
  induction faults with
  | nil => simp [retries]
  | cons f faults ih =>
      rw [retries_cons hpk hconflict, hcalls, flatMap_serviceCalls_cons]
      by_cases hf : Applies 0 f
      · refine iff_of_false ?_ (fun h => h f List.mem_cons_self hf)
        intro hall
        -- The first call deletes the account that carries the main user's id.
        have hlost : Preserved main toMerge start
            (up.send (.deleteResource s₀ main.ansibleId)) :=
          hall _ (List.mem_append_left _ (send_mem_moments hf))
        obtain ⟨_, a, ha, rfl, hid⟩ := haccount
        obtain ⟨b, hb, hbkey, -⟩ := hlost s₀ a ha hid
        exact (hlinked a.key ⟨a, ha, rfl, hid⟩).lost b hb hbkey
      · rw [perform_of_not_applies hf]
        simp only [Bool.false_eq_true, if_false, List.singleton_append, List.forall_mem_cons, hf,
          not_false_eq_true, true_and, ih, preserved_of_phases hphases]

/-- While no service is linked, the accounts stay preserved exactly when no attempt applies its
first call after one that applied its first two. -/
theorem preserved_iff_of_unlinked (hids : toMerge.ansibleId ≠ main.ansibleId)
    (hpk : main.pk ≠ toMerge.pk) (hconflict : g.conflicts main toMerge = false)
    (hcalls : g.linkCalls main toMerge =
      (s₀ :: services).flatMap (g.serviceCalls main toMerge))
    (hnodup : (s₀ :: services).Nodup) (haccount : ∃ key, Tracked toMerge start s₀ key)
    (isRetriedCleanly : Bool) (failures : List Fault)
    (hcall : ∀ f ∈ failures, f.call < (g.linkCalls main toMerge).length)
    (hunlinked : ∀ s, Unlinked toMerge start s up) :
    (∀ m ∈ retries main toMerge preserveAuthenticators (attempts failures isRetriedCleanly) g up,
        Preserved main toMerge start m) ↔
      NoRepeatedDelete (attempts failures isRetriedCleanly) := by
  have hmoments : ∀ (fault : Option Fault) {up : Upstream},
      (∀ s, Unlinked toMerge start s up) →
      ∀ m ∈ (perform fault (g.linkCalls main toMerge) up).moments,
        ∀ s, Unlinked toMerge start s m ∨ Linked main toMerge start s m := by
    intro fault up hup
    rw [hcalls]
    exact phases_of_mem_moments hids hnodup fault (fun s _ => hup s) fun s => Or.inl (hup s)
  induction failures generalizing up with
  | nil =>
      cases isRetriedCleanly with
      | false => simp [attempts, retries, NoRepeatedDelete]
      | true =>
          refine iff_of_true ?_ (List.pairwise_singleton _ _)
          intro m hm
          rw [attempts, List.map_nil, List.nil_append, if_pos rfl,
            retries_cons hpk hconflict] at hm
          -- Whether the attempt succeeds or not, there is no further one.
          have hmem : m ∈ (perform none (g.linkCalls main toMerge) up).moments := by
            rcases List.mem_append.mp hm with hm | hm
            · exact hm
            · split at hm <;> cases hm
          exact preserved_of_phases (hmoments none hunlinked m hmem)
  | cons f failures ih =>
      have hfailed : (perform (some f) (g.linkCalls main toMerge) up).succeeded = false :=
        succeeded_eq_false (hcall f List.mem_cons_self)
      have hlater : ∀ f' ∈ failures, f'.call < (g.linkCalls main toMerge).length :=
        fun f' hf' => hcall f' (List.mem_cons_of_mem _ hf')
      have hpreserved : ∀ m ∈ (perform (some f) (g.linkCalls main toMerge) up).moments,
          Preserved main toMerge start m :=
        fun m hm => preserved_of_phases (hmoments (some f) hunlinked m hm)
      rw [attempts, List.map_cons, List.cons_append, ← attempts, retries_cons hpk hconflict,
        hfailed, if_neg Bool.false_ne_true, List.forall_mem_append, NoRepeatedDelete,
        List.pairwise_cons]
      refine Iff.trans (and_iff_right hpreserved) ?_
      by_cases hf : Applies 1 (some f)
      · -- The first service is linked now: from here on no attempt may apply its first call.
        have hlinked : Linked main toMerge start s₀
            (perform (some f) (g.linkCalls main toMerge) up).final := by
          rw [hcalls]
          exact linked_final_of_applies hids (List.nodup_cons.mp hnodup).1 haccount hf
            (hunlinked s₀)
        have hphases : ∀ s, Unlinked toMerge start s
              (perform (some f) (g.linkCalls main toMerge) up).final ∨
            Linked main toMerge start s
              (perform (some f) (g.linkCalls main toMerge) up).final := by
          rcases final_eq_or_mem (some f) (g.linkCalls main toMerge) up with hfinal | hmem
          · rw [hfinal]
            exact fun s => Or.inl (hunlinked s)
          · exact hmoments (some f) hunlinked _ hmem
        rw [preserved_iff_of_linked hpk hconflict hcalls haccount hlinked hphases]
        constructor
        · intro hnone
          refine ⟨fun g' hg' hboth => hnone g' hg' hboth.2, ?_⟩
          exact List.pairwise_of_forall_mem_list fun _ _ g' hg' hboth => hnone g' hg' hboth.2
        · rintro ⟨hnone, -⟩ g' hg' happlies
          exact hnone g' hg' ⟨hf, happlies⟩
      · have hfinal : ∀ s, Unlinked toMerge start s
            (perform (some f) (g.linkCalls main toMerge) up).final := by
          rw [hcalls]
          exact unlinked_final_of_not_applies hids hf hunlinked
        refine Iff.trans (ih hlater hfinal) ?_
        exact ⟨fun h => ⟨fun g' _ hboth => hf hboth.1, h⟩, And.right⟩

end Phases

/-- Linking two users, with any number of failed attempts at any of their calls and possibly a
last attempt without a fault: at every moment every upstream account of the merged user is still
there, exactly when no attempt applies its first call after one that applied its first two. -/
theorem preserved_iff (g : Gateway) (main toMerge : GatewayUser) (start : Upstream)
    (preserveAuthenticators isRetriedCleanly : Bool) (failures : List Fault)
    (h : Setting g main toMerge start)
    (hcall : ∀ f ∈ failures, f.call < (g.linkCalls main toMerge).length) :
    (∀ m ∈ retries main toMerge preserveAuthenticators (attempts failures isRetriedCleanly) g
        start, Preserved main toMerge start m) ↔
      NoRepeatedDelete (attempts failures isRetriedCleanly) := by
  have htrivial : g.linkCalls main toMerge = [] →
      NoRepeatedDelete (attempts failures isRetriedCleanly) := by
    intro hnil
    have hfailures : failures = [] := by
      rw [List.eq_nil_iff_forall_not_mem]
      intro f hf
      have hlt := hcall f hf
      rw [hnil] at hlt
      exact absurd hlt (Nat.not_lt_zero _)
    rw [hfailures]
    cases isRetriedCleanly <;> simp [attempts, NoRepeatedDelete]
  by_cases hpk : main.pk = toMerge.pk
  · -- Nothing is done for the same user.
    have hnil : g.linkCalls main toMerge = [] := by simp [Gateway.linkCalls, hpk]
    refine iff_of_true ?_ (htrivial hnil)
    have hmoments : retries main toMerge preserveAuthenticators
        (attempts failures isRetriedCleanly) g start = [] := by
      cases attempts failures isRetriedCleanly with
      | nil => rfl
      | cons fault faults => simp [retries, linkAccount, hpk]
    rw [hmoments]
    simp
  · cases hconflict : g.conflicts main toMerge with
    | true =>
        -- The tables cannot be written, and no call is made.
        have hnil : g.linkCalls main toMerge = [] := by simp [Gateway.linkCalls, hconflict]
        refine iff_of_true ?_ (htrivial hnil)
        have hmoments : ∀ faults, retries main toMerge preserveAuthenticators faults g start =
            [] := by
          intro faults
          induction faults with
          | nil => rfl
          | cons fault faults ih => simp [retries, linkAccount, hpk, hconflict, ih]
        rw [hmoments]
        simp
    | false =>
        have hcalls : g.linkCalls main toMerge =
            (g.originalServices toMerge).flatMap (g.serviceCalls main toMerge) := by
          simp [Gateway.linkCalls, hpk, hconflict]
        cases hservices : g.originalServices toMerge with
        | nil =>
            rw [hservices, List.flatMap_nil] at hcalls
            refine iff_of_true ?_ (htrivial hcalls)
            have hmoments : retries main toMerge preserveAuthenticators
                (attempts failures isRetriedCleanly) g start = [] := by
              cases attempts failures isRetriedCleanly with
              | nil => rfl
              | cons fault faults => simp [retries_cons hpk hconflict, hcalls, perform]
            rw [hmoments]
            simp
        | cons s₀ services =>
            rw [hservices] at hcalls
            have hnodup := Gateway.nodup_originalServices h.accounts_nodup toMerge
            rw [hservices] at hnodup
            obtain ⟨a, ha, hid⟩ := h.has_account s₀ (by rw [hservices]; exact List.mem_cons_self)
            exact preserved_iff_of_unlinked (h.ids_ne hpk) hpk hconflict hcalls hnodup
              ⟨a.key, a, ha, rfl, hid⟩ isRetriedCleanly failures hcall (unlinked_start h)

/-- A main user, and a user with migrated accounts in the services 1 and 2. -/
def twoServices : Gateway where
  serviceId := "gateway"
  users := [⟨10, "admin", "id-main"⟩, ⟨11, "galaxy_admin", "id-merge"⟩]
  originalAccounts := [(11, 1), (11, 2)]
  authenticatorUsers := []

/-- The accounts of the services 1 and 2. -/
def twoAccounts : Upstream
  | 1 => [⟨100, "id-merge", "hub", true, "admin"⟩]
  | 2 => [⟨200, "id-merge", "eda", true, "admin"⟩]
  | _ => []

/-- The two users and the two services are as `preserved_iff` expects them. -/
theorem setting_twoServices :
    Setting twoServices ⟨10, "admin", "id-main"⟩ ⟨11, "galaxy_admin", "id-merge"⟩ twoAccounts where
  main_mem := by decide
  toMerge_mem := by decide
  ids_nodup := by decide
  accounts_nodup := by decide
  keys_nodup := by
    intro service
    rcases service with _ | _ | _ | n <;> simp [twoAccounts]
  has_account := by decide

/-- A fault at the first call, not applied, and a retry without one: both accounts survive. -/
theorem preserved_twoServices_first_call :
    NoRepeatedDelete (attempts [⟨0, false⟩] true) ∧
      ∀ m ∈ retries ⟨10, "admin", "id-main"⟩ ⟨11, "galaxy_admin", "id-merge"⟩ false
          (attempts [⟨0, false⟩] true) twoServices twoAccounts,
        Preserved ⟨10, "admin", "id-main"⟩ ⟨11, "galaxy_admin", "id-merge"⟩ twoAccounts m := by
  have hno : NoRepeatedDelete (attempts [⟨0, false⟩] true) := by
    simp [attempts, NoRepeatedDelete, Applies]
  exact ⟨hno, (preserved_iff twoServices ⟨10, "admin", "id-main"⟩
    ⟨11, "galaxy_admin", "id-merge"⟩ twoAccounts false true [⟨0, false⟩] setting_twoServices
    (by decide)).mpr hno⟩

/-- The first service is finished and the call for the second fails; the retry deletes the linked
account of the first. -/
theorem not_preserved_twoServices_third_call :
    Setting twoServices ⟨10, "admin", "id-main"⟩ ⟨11, "galaxy_admin", "id-merge"⟩ twoAccounts ∧
      ∃ m ∈ retries ⟨10, "admin", "id-main"⟩ ⟨11, "galaxy_admin", "id-merge"⟩ false
          (attempts [⟨2, false⟩] true) twoServices twoAccounts,
        ¬ Preserved ⟨10, "admin", "id-main"⟩ ⟨11, "galaxy_admin", "id-merge"⟩ twoAccounts m := by
  refine ⟨setting_twoServices, ?_⟩
  by_contra hall
  have hpreserved : ∀ m ∈ retries ⟨10, "admin", "id-main"⟩ ⟨11, "galaxy_admin", "id-merge"⟩ false
      (attempts [⟨2, false⟩] true) twoServices twoAccounts, m 1 ≠ [] := by
    intro m hm hempty
    have hm' :
        Preserved ⟨10, "admin", "id-main"⟩ ⟨11, "galaxy_admin", "id-merge"⟩ twoAccounts m := by
      by_contra hnot
      exact hall ⟨m, hm, hnot⟩
    obtain ⟨b, hb, -⟩ := hm' 1 ⟨100, "id-merge", "hub", true, "admin"⟩ (by decide) rfl
    rw [hempty] at hb
    cases hb
  exact absurd hpreserved (by decide)

end AapGateway.Migration
