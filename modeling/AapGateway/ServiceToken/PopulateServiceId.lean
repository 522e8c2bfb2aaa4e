import AapGateway.Foundations.Dict
import AapGateway.Foundations.Uuid
import AapGateway.Routes.Serializers

/-!
# Finding the cluster of an unknown issuer

A service that was registered after the migration has no `service_id` on its cluster. When a token
names an issuer that no cluster has, `populate_service_id` asks the clusters without an id for
theirs, at most as many as there are built-in service types besides the gateway, and stores the id
on the cluster that answers with the issuer's.

The number of probes is said to suffice because there is one cluster per type. Nothing in the schema
says so: the type is a plain foreign key, and a cluster may have several API routes.

## Main definitions

* `checkAndSetCooldown`: the brake on repeated attempts for one issuer;
* `eligibleRoutes` and `probedRoutes`: the API routes that could answer, and those that are asked;
* `populateServiceId`: the fallback, with the database and the cooldown it leaves.

## Main results

* `populateServiceId_iff`: no id is overwritten, and an issuer that some cluster reports is found
  exactly when one of the probed routes reports it.
-/

namespace AapGateway

namespace ServiceToken

/-- `_SYNCABLE_TYPES`. -/
def syncableTypes : List String :=
  [DefaultServiceType.controller, .eda, .hub, .metrics].map DefaultServiceType.value

/-- `_MAX_CLUSTERS_TO_PROBE`. -/
def maxClustersToProbe : ℕ := syncableTypes.length

/-- `_POPULATE_COOLDOWN_SECONDS`. -/
def populateCooldownSeconds : ℚ := 60

/-- `_POPULATE_MAX_COOLDOWN_ENTRIES`. -/
def populateMaxCooldownEntries : ℕ := 1000

/-- `_check_and_set_cooldown` at a time of the monotonic clock: whether the issuer is to be skipped,
and the dictionary of attempts afterwards. -/
def checkAndSetCooldown (now : ℚ) (cooldown : Dict ℚ) (issuer : String) : Bool × Dict ℚ :=
  let pruned :=
    if populateMaxCooldownEntries ≤ cooldown.items.length then
      let cutoff := now - populateCooldownSeconds
      cooldown.without ((cooldown.items.filter (·.2 < cutoff)).map Prod.fst)
    else cooldown
  if populateMaxCooldownEntries ≤ pruned.items.length then (true, pruned)
  -- An issuer that was never tried counts as tried at time 0.
  else if now - (pruned.get? issuer).getD 0 < populateCooldownSeconds then (true, pruned)
  else (false, pruned.set issuer now)

/-- The answer of a metadata endpoint: its status, and the text of `service_id`, which is empty
where the answer has none. -/
structure ServiceMetadata where
  statusCode : ℕ
  serviceId : String

/-- What the fallback reads from outside the database. -/
structure PopulateEnv where
  /-- The monotonic clock. -/
  now : ℚ
  /-- `GWResourceAPIClient(service_api).get_service_metadata()` and the reading of its body, either
  of which may raise. -/
  getServiceMetadata : RouteInstance → Except Unit ServiceMetadata

/-- `_fetch_service_id_for_route`. -/
def PopulateEnv.fetchServiceIdForRoute (env : PopulateEnv) (serviceApi : RouteInstance) :
    Option String :=
  match env.getServiceMetadata serviceApi with
  | .error _ => none
  | .ok metadata =>
    if metadata.statusCode ≠ 200 then none
    else (Uuid.parse (Text.strip metadata.serviceId)).map Uuid.str

/-- Whether the endpoint of a route answers with an id. -/
def PopulateEnv.reports (env : PopulateEnv) (canonicalId : String) (serviceApi : RouteInstance) :
    Bool :=
  env.fetchServiceIdForRoute serviceApi = some canonicalId

/-- The API routes of clusters without an id whose service type is a syncable one. -/
def eligibleRoutes (t : Tables) : List RouteInstance :=
  ((t.routes.filter Routes.RouteResource.serviceAPIRoute.owns).filterMap t.resolveRoute).filter
    fun r => r.serviceCluster.serviceId = none ∧ r.serviceCluster.serviceType.name ∈ syncableTypes

/-- The routes that are asked: those of the clusters with the smallest keys. -/
def probedRoutes (t : Tables) : List RouteInstance :=
  ((eligibleRoutes t).insertionSort fun a b => a.serviceCluster.pk ≤ b.serviceCluster.pk).take
    maxClustersToProbe

/-- `cluster.service_id = service_id`. -/
def withServiceId {T : Type} (c : ServiceCluster T) (serviceId : String) : ServiceCluster T :=
  { c with serviceId := some serviceId }

/-- The cluster row after `update(service_id=...)` of the rows with a key and no id. -/
def assignServiceId {T : Type} (pk : ℕ) (serviceId : String) (c : ServiceCluster T) :
    ServiceCluster T :=
  if c.pk = pk ∧ c.serviceId = none then withServiceId c serviceId else c

/-- `ServiceCluster.objects.filter(pk=pk, service_id__isnull=True).update(service_id=...)`: the
number of rows, and the database afterwards. -/
def updateServiceId (db : Database) (pk : ℕ) (serviceId : String) :
    Except SaveError (ℕ × Database) := do
  let rows := (db.serviceClusters.filter fun c => c.pk = pk ∧ c.serviceId = none).length
  let db' ← Database.commit
    { db.toTables with serviceClusters := db.serviceClusters.map (assignServiceId pk serviceId) }
  return (rows, db')

/-- The loop over the probed routes. An error of a statement ends it without a cluster. -/
def probe (env : PopulateEnv) (canonicalId : String) (db : Database) :
    List RouteInstance → Option (ServiceCluster ServiceType) × Database
  | [] => (none, db)
  | serviceApi :: rest =>
    let cluster := serviceApi.serviceCluster
    if env.reports canonicalId serviceApi then
      match updateServiceId db cluster.pk canonicalId with
      | .error _ => (none, db)
      | .ok (rows, db') =>
        if rows ≠ 0 ∨
            ∃ c ∈ db'.serviceClusters, c.pk = cluster.pk ∧ c.serviceId = some canonicalId then
          (some (withServiceId cluster canonicalId), db')
        else probe env canonicalId db' rest
    else probe env canonicalId db rest

/-- What `populate_service_id` returns and leaves behind. -/
structure Populated where
  cluster : Option (ServiceCluster ServiceType)
  db : Database
  cooldown : Dict ℚ

/-- `populate_service_id`. -/
def populateServiceId (env : PopulateEnv) (cooldown : Dict ℚ) (db : Database)
    (unverifiedServiceId : String) : Populated :=
  match Uuid.parse unverifiedServiceId with
  | none => ⟨none, db, cooldown⟩
  | some u =>
    let canonicalId := u.str
    match checkAndSetCooldown env.now cooldown canonicalId with
    | (true, cooldown') => ⟨none, db, cooldown'⟩
    | (false, cooldown') =>
      let (cluster, db') := probe env canonicalId db (probedRoutes db.toTables)
      ⟨cluster, db', cooldown'⟩

/-! ## One update -/

section Update

variable {T : Type} {pk : ℕ} {serviceId : String}

@[simp]
theorem assignServiceId_pk (c : ServiceCluster T) : (assignServiceId pk serviceId c).pk = c.pk := by
  unfold assignServiceId
  split <;> rfl

@[simp]
theorem assignServiceId_name (c : ServiceCluster T) :
    (assignServiceId pk serviceId c).name = c.name := by
  unfold assignServiceId
  split <;> rfl

@[simp]
theorem assignServiceId_serviceType (c : ServiceCluster T) :
    (assignServiceId pk serviceId c).serviceType = c.serviceType := by
  unfold assignServiceId
  split <;> rfl

/-- A cluster that has an id keeps it. -/
theorem assignServiceId_of_ne_none {c : ServiceCluster T} (h : c.serviceId ≠ none) :
    assignServiceId pk serviceId c = c :=
  if_neg fun hhit => h hhit.2

/-- The update changes the id of the cluster it is for, and nothing else. -/
theorem assignServiceId_serviceId (c : ServiceCluster T) :
    (assignServiceId pk serviceId c).serviceId = c.serviceId ∨
      c.pk = pk ∧ (assignServiceId pk serviceId c).serviceId = some serviceId := by
  unfold assignServiceId
  split
  · rename_i hhit
    exact Or.inr ⟨hhit.1, rfl⟩
  · exact Or.inl rfl

/-- The update leaves the columns of the clusters other than the id. -/
theorem map_assignServiceId {β : Type} {col : ServiceCluster T → β}
    (hcol : ∀ c, col (assignServiceId pk serviceId c) = col c)
    (clusters : List (ServiceCluster T)) :
    (clusters.map (assignServiceId pk serviceId)).map col = clusters.map col := by
  rw [List.map_map]
  exact List.map_congr_left fun c _ => hcol c

/-- An id that no cluster has can be assigned. -/
theorem integrity_assignServiceId (db : Database)
    (hfresh : ∀ c ∈ db.serviceClusters, c.serviceId ≠ some serviceId) :
    { db.toTables with
      serviceClusters :=
        db.serviceClusters.map (assignServiceId pk serviceId) : Tables }.Integrity := by
  obtain ⟨⟨htypes, htypeNames, hpks, hnames, hids, hothers⟩, htype, hnodes, hroutes, hports⟩ :=
    db.integrity
  refine ⟨⟨htypes, htypeNames, ?_, ?_, ?_, hothers⟩, ?_, ?_, ?_, hports⟩
  · show ((db.serviceClusters.map _).map _).Nodup
    rwa [map_assignServiceId assignServiceId_pk]
  · show ((db.serviceClusters.map _).map _).Nodup
    rwa [map_assignServiceId assignServiceId_name]
  · exact Table.nodup_filterMap_assign hpks hids hfresh assignServiceId_serviceId
  · intro c hc
    obtain ⟨c₀, hc₀, rfl⟩ := List.mem_map.mp hc
    rw [assignServiceId_serviceType]
    exact htype c₀ hc₀
  · show ∀ n ∈ db.serviceNodes, n.serviceCluster ∈ (db.serviceClusters.map _).map _
    rwa [map_assignServiceId assignServiceId_pk]
  · show ∀ r ∈ db.routes, r.serviceCluster ∈ (db.serviceClusters.map _).map _
    rwa [map_assignServiceId assignServiceId_pk]

/-- What a successful update did. -/
theorem updateServiceId_ok {db db' : Database} {rows : ℕ}
    (h : updateServiceId db pk serviceId = .ok (rows, db')) :
    rows = (db.serviceClusters.filter fun c => c.pk = pk ∧ c.serviceId = none).length ∧
      db'.toTables =
        { db.toTables with
          serviceClusters := db.serviceClusters.map (assignServiceId pk serviceId) } := by
  unfold updateServiceId at h
  cases hcommit : Database.commit
      { db.toTables with
        serviceClusters := db.serviceClusters.map (assignServiceId pk serviceId) } with
  | error e => rw [hcommit] at h; cases h
  | ok db₁ =>
      rw [hcommit] at h
      cases h
      exact ⟨rfl, Database.toTables_of_commit hcommit⟩

/-- An update with an id that no cluster has succeeds. -/
theorem updateServiceId_of_fresh (db : Database) (pk : ℕ)
    (hfresh : ∀ c ∈ db.serviceClusters, c.serviceId ≠ some serviceId) :
    ∃ rows db', updateServiceId db pk serviceId = .ok (rows, db') := by
  unfold updateServiceId Database.commit
  rw [dif_pos (integrity_assignServiceId db hfresh)]
  exact ⟨_, _, rfl⟩

/-- A cluster that has an id is still there after an update. -/
theorem mem_of_updateServiceId {db db' : Database} {rows : ℕ}
    (h : updateServiceId db pk serviceId = .ok (rows, db')) {c : ServiceCluster ℕ}
    (hc : c ∈ db.serviceClusters) (hid : c.serviceId ≠ none) : c ∈ db'.serviceClusters := by
  rw [(updateServiceId_ok h).2]
  exact List.mem_map.mpr ⟨c, hc, assignServiceId_of_ne_none hid⟩

/-- A cluster looked up after the update is the cluster from before with the update applied. -/
theorem clusterByPk_assignServiceId (t : Tables) (k : ℕ) :
    { t with serviceClusters := t.serviceClusters.map (assignServiceId pk serviceId) : Tables
      }.clusterByPk k = (t.clusterByPk k).map (assignServiceId pk serviceId) := by
  unfold Tables.clusterByPk
  dsimp only
  rw [List.find?_map]
  have hpred : ((fun c : ServiceCluster ℕ => decide (c.pk = k)) ∘ assignServiceId pk serviceId) =
      fun c => decide (c.pk = k) := by
    ext c
    rw [Function.comp_apply, assignServiceId_pk]
  rw [hpred]
  cases t.serviceClusters.find? fun c => decide (c.pk = k) with
  | none => rfl
  | some c =>
      show Tables.resolveCluster _ (assignServiceId pk serviceId c) =
        (t.resolveCluster c).map (assignServiceId pk serviceId)
      unfold Tables.resolveCluster
      rw [assignServiceId_serviceType, Option.map_map]
      congr 1
      ext1 s
      unfold assignServiceId
      dsimp only [Function.comp_apply]
      split <;> rfl

end Update

/-! ## The loop -/

section Probe

variable {env : PopulateEnv} {canonicalId : String}

/-- A route of a cluster without an id is a row of the database. -/
theorem clusterByPk_of_mem_eligibleRoutes {db : Database} {serviceApi : RouteInstance}
    (h : serviceApi ∈ eligibleRoutes db.toTables) :
    serviceApi.serviceCluster.serviceId = none ∧
      db.clusterByPk serviceApi.serviceCluster.pk = some serviceApi.serviceCluster := by
  obtain ⟨hmem, heligible⟩ := List.mem_filter.mp h
  obtain ⟨r, -, hresolve⟩ := List.mem_filterMap.mp hmem
  obtain ⟨cluster, hcluster, rfl⟩ := Option.map_eq_some_iff.mp hresolve
  refine ⟨(of_decide_eq_true heligible).1, ?_⟩
  -- A cluster that is found by a key has that key.
  obtain ⟨c, hfind, hres⟩ := Option.bind_eq_some_iff.mp hcluster
  obtain ⟨s, -, rfl⟩ := Option.map_eq_some_iff.mp hres
  have hpk : c.pk = r.serviceCluster := of_decide_eq_true
    (List.find?_some (p := fun c : ServiceCluster ℕ => decide (c.pk = r.serviceCluster)) hfind)
  exact (congrArg db.clusterByPk hpk).trans hcluster

/-- A probed route is an eligible one. -/
theorem mem_eligibleRoutes_of_mem_probedRoutes {t : Tables} {serviceApi : RouteInstance}
    (h : serviceApi ∈ probedRoutes t) : serviceApi ∈ eligibleRoutes t :=
  (List.perm_insertionSort _ _).mem_iff.mp (List.mem_of_mem_take h)

/-- A cluster that has an id is still there after the loop. -/
theorem mem_of_probe (db : Database) (routes : List RouteInstance) {c : ServiceCluster ℕ}
    (hc : c ∈ db.serviceClusters) (hid : c.serviceId ≠ none) :
    c ∈ (probe env canonicalId db routes).2.serviceClusters := by
  induction routes generalizing db with
  | nil => exact hc
  | cons serviceApi rest ih =>
      rw [probe]
      split
      · cases hupdate : updateServiceId db serviceApi.serviceCluster.pk canonicalId with
        | error e => exact hc
        | ok result =>
            obtain ⟨rows, db'⟩ := result
            have hc' := mem_of_updateServiceId hupdate hc hid
            dsimp only
            split
            · exact hc'
            · exact ih db' hc'
      · exact ih db hc

/-- The update of a route's cluster finds the row and stores the id. -/
theorem updateServiceId_clusterByPk {db db' : Database} {rows : ℕ}
    {cluster : ServiceCluster ServiceType} (hnull : cluster.serviceId = none)
    (hrow : db.clusterByPk cluster.pk = some cluster)
    (h : updateServiceId db cluster.pk canonicalId = .ok (rows, db')) :
    rows ≠ 0 ∧ db'.clusterByPk cluster.pk = some (withServiceId cluster canonicalId) := by
  obtain ⟨hrows, htables⟩ := updateServiceId_ok h
  constructor
  · obtain ⟨c, hfind, hres⟩ := Option.bind_eq_some_iff.mp hrow
    obtain ⟨s, -, heq⟩ := Option.map_eq_some_iff.mp hres
    have hpk : c.pk = cluster.pk := by rw [← heq]
    have hid : c.serviceId = none := by rw [← hnull, ← heq]
    rw [hrows]
    refine (List.length_pos_of_mem (List.mem_filter.mpr
      ⟨List.mem_of_find?_eq_some hfind, ?_⟩)).ne'
    exact decide_eq_true ⟨hpk, hid⟩
  · rw [htables, clusterByPk_assignServiceId, hrow]
    unfold assignServiceId
    rw [Option.map_some, if_pos ⟨rfl, hnull⟩]

/-- Without a route that reports the id the loop does nothing. -/
theorem probe_eq_none (db : Database) {routes : List RouteInstance}
    (h : routes.find? (env.reports canonicalId) = none) :
    probe env canonicalId db routes = (none, db) := by
  induction routes with
  | nil => rfl
  | cons serviceApi rest ih =>
      have hskip : env.reports canonicalId serviceApi = false := by
        simpa using List.find?_eq_none.mp h serviceApi List.mem_cons_self
      rw [List.find?_cons_of_neg (by simp [hskip])] at h
      rw [probe]
      simp only [hskip, Bool.false_eq_true, if_false]
      exact ih h

/-- Where no cluster has the id, the loop ends at the first route that reports it, with the id
stored on that route's cluster. -/
theorem probe_eq_some {db : Database} {routes : List RouteInstance} {serviceApi : RouteInstance}
    (hfresh : ∀ c ∈ db.serviceClusters, c.serviceId ≠ some canonicalId)
    (hroutes : ∀ serviceApi ∈ routes, serviceApi.serviceCluster.serviceId = none ∧
      db.clusterByPk serviceApi.serviceCluster.pk = some serviceApi.serviceCluster)
    (h : routes.find? (env.reports canonicalId) = some serviceApi) :
    (probe env canonicalId db routes).1 =
        some (withServiceId serviceApi.serviceCluster canonicalId) ∧
      (probe env canonicalId db routes).2.clusterByPk serviceApi.serviceCluster.pk =
        some (withServiceId serviceApi.serviceCluster canonicalId) := by
  induction routes with
  | nil => cases h
  | cons first rest ih =>
      cases hreports : env.reports canonicalId first with
      | true =>
          rw [List.find?_cons_of_pos hreports] at h
          obtain rfl := Option.some.inj h
          obtain ⟨hnull, hrow⟩ := hroutes first List.mem_cons_self
          obtain ⟨rows, db', hupdate⟩ :=
            updateServiceId_of_fresh db first.serviceCluster.pk hfresh
          obtain ⟨hrows, hstored⟩ := updateServiceId_clusterByPk hnull hrow hupdate
          have hprobe : probe env canonicalId db (first :: rest) =
              (some (withServiceId first.serviceCluster canonicalId), db') := by
            rw [probe]
            simp only [hreports, if_true, hupdate]
            exact if_pos (Or.inl hrows)
          rw [hprobe]
          exact ⟨rfl, hstored⟩
      | false =>
          rw [List.find?_cons_of_neg (by simp [hreports])] at h
          have hprobe : probe env canonicalId db (first :: rest) =
              probe env canonicalId db rest := by
            rw [probe]
            simp only [hreports, Bool.false_eq_true, if_false]
          rw [hprobe]
          exact ih (fun serviceApi hmem => hroutes serviceApi (List.mem_cons_of_mem _ hmem)) h

/-- A cluster that the loop returns has the id. -/
theorem serviceId_of_probe (db : Database) (routes : List RouteInstance)
    {c : ServiceCluster ServiceType} (h : (probe env canonicalId db routes).1 = some c) :
    c.serviceId = some canonicalId := by
  induction routes generalizing db with
  | nil => cases h
  | cons serviceApi rest ih =>
      rw [probe] at h
      split at h
      · cases hupdate : updateServiceId db serviceApi.serviceCluster.pk canonicalId with
        | error e => rw [hupdate] at h; cases h
        | ok result =>
            obtain ⟨rows, db'⟩ := result
            rw [hupdate] at h
            dsimp only at h
            split at h
            · cases h
              rfl
            · exact ih db' h
      · exact ih db h

end Probe

/-! ## Completeness -/

/-- An issuer is a UUID that is not on cooldown and that no cluster has, every eligible route
answers, and one of them reports it. -/
structure Findable (env : PopulateEnv) (cooldown : Dict ℚ) (db : Database)
    (unverifiedServiceId : String) (u : Uuid) : Prop where
  parse : Uuid.parse unverifiedServiceId = some u
  ready : (checkAndSetCooldown env.now cooldown u.str).1 = false
  fresh : ∀ c ∈ db.serviceClusters, c.serviceId ≠ some u.str
  answers : ∀ serviceApi ∈ eligibleRoutes db.toTables,
    env.fetchServiceIdForRoute serviceApi ≠ none
  reported : ∃ serviceApi ∈ eligibleRoutes db.toTables, env.reports u.str serviceApi = true

/-- The cluster of an eligible route that reports the issuer is returned with the id, as it is
stored then. -/
def Populated.Complete (result : Populated) (env : PopulateEnv) (t : Tables) (u : Uuid) : Prop :=
  ∃ serviceApi ∈ eligibleRoutes t, env.reports u.str serviceApi = true ∧
    result.cluster = some (withServiceId serviceApi.serviceCluster u.str) ∧
    result.db.clusterByPk serviceApi.serviceCluster.pk = result.cluster

/-- The fallback for an issuer that is a UUID and not on cooldown is the loop. -/
theorem populateServiceId_of_ready {env : PopulateEnv} {cooldown : Dict ℚ} (db : Database)
    {unverifiedServiceId : String} {u : Uuid} (hparse : Uuid.parse unverifiedServiceId = some u)
    (hready : (checkAndSetCooldown env.now cooldown u.str).1 = false) :
    (populateServiceId env cooldown db unverifiedServiceId).cluster =
        (probe env u.str db (probedRoutes db.toTables)).1 ∧
      (populateServiceId env cooldown db unverifiedServiceId).db =
        (probe env u.str db (probedRoutes db.toTables)).2 := by
  unfold populateServiceId
  rw [hparse]
  dsimp only
  generalize checkAndSetCooldown env.now cooldown u.str = outcome at hready
  obtain ⟨skip, cooldown'⟩ := outcome
  obtain rfl : skip = false := hready
  exact ⟨rfl, rfl⟩

/-- A cluster that the fallback returns has the issuer's id. -/
theorem serviceId_of_populateServiceId {env : PopulateEnv} {cooldown : Dict ℚ} {db : Database}
    {unverifiedServiceId : String} {c : ServiceCluster ServiceType}
    (h : (populateServiceId env cooldown db unverifiedServiceId).cluster = some c) :
    ∃ u, Uuid.parse unverifiedServiceId = some u ∧ c.serviceId = some u.str := by
  unfold populateServiceId at h
  split at h
  · cases h
  · rename_i u hparse
    refine ⟨u, hparse, ?_⟩
    dsimp only at h
    split at h
    · cases h
    · exact serviceId_of_probe db _ h

/-- The first attempt for an issuer is made once the clock has passed the cooldown. -/
theorem checkAndSetCooldown_empty {now : ℚ} (issuer : String) (h : populateCooldownSeconds ≤ now) :
    (checkAndSetCooldown now Dict.empty issuer).1 = false := by
  have hwaited : ¬now - 0 < populateCooldownSeconds := by
    rw [sub_zero]
    exact not_lt.mpr h
  exact congrArg Prod.fst (if_neg hwaited)

/-- No id is overwritten, whatever the issuer. -/
theorem mem_of_populateServiceId (env : PopulateEnv) (cooldown : Dict ℚ) (db : Database)
    (unverifiedServiceId : String) {c : ServiceCluster ℕ} (hc : c ∈ db.serviceClusters)
    (hid : c.serviceId ≠ none) :
    c ∈ (populateServiceId env cooldown db unverifiedServiceId).db.serviceClusters := by
  unfold populateServiceId
  split
  · exact hc
  · dsimp only
    split
    · exact hc
    · exact mem_of_probe db _ hc hid

/-- No id is overwritten, and an issuer that an eligible route reports is found and stored exactly
when one of the probed routes reports it. -/
theorem populateServiceId_iff (env : PopulateEnv) (cooldown : Dict ℚ) (db : Database)
    (unverifiedServiceId : String) :
    (∀ c ∈ db.serviceClusters, c.serviceId ≠ none →
      c ∈ (populateServiceId env cooldown db unverifiedServiceId).db.serviceClusters) ∧
    ∀ u, Findable env cooldown db unverifiedServiceId u →
      ((populateServiceId env cooldown db unverifiedServiceId).Complete env db.toTables u ↔
        ∃ serviceApi ∈ probedRoutes db.toTables, env.reports u.str serviceApi = true) := by
  refine ⟨fun c hc hid => mem_of_populateServiceId env cooldown db _ hc hid, ?_⟩
  intro u h
  obtain ⟨hcluster, hdb⟩ := populateServiceId_of_ready db h.parse h.ready
  unfold Populated.Complete
  rw [hcluster, hdb]
  constructor
  · rintro ⟨serviceApi, -, -, hreturned, -⟩
    by_contra hnone
    -- Without a probed route that reports the id, the loop returns no cluster.
    have hfind : (probedRoutes db.toTables).find? (env.reports u.str) = none :=
      List.find?_eq_none.mpr fun serviceApi hmem hreports => hnone ⟨serviceApi, hmem, hreports⟩
    rw [probe_eq_none db hfind] at hreturned
    cases hreturned
  · rintro ⟨serviceApi₀, hmem₀, hreports₀⟩
    cases hfind : (probedRoutes db.toTables).find? (env.reports u.str) with
    | none => exact absurd hreports₀ (List.find?_eq_none.mp hfind _ hmem₀)
    | some serviceApi =>
        obtain ⟨hreturned, hstored⟩ := probe_eq_some h.fresh (fun serviceApi hmem =>
          clusterByPk_of_mem_eligibleRoutes (mem_eligibleRoutes_of_mem_probedRoutes hmem)) hfind
        refine ⟨serviceApi, mem_eligibleRoutes_of_mem_probedRoutes
          (List.mem_of_find?_eq_some hfind), List.find?_some hfind, hreturned, ?_⟩
        rw [hreturned]
        exact hstored

/-- The API route of the automation controller with a number. -/
def controllerAPIRoute (n : ℕ) : Route ℕ where
  pk := n
  name := "controller-" ++ n.repr
  kind := .serviceAPIRoute ("controller-" ++ n.repr)
  httpPort := 1
  serviceCluster := n
  servicePort := 8080
  isServiceHttps := true
  servicePath := "/api/"
  gatewayPath := "/api/controller-" ++ n.repr ++ "/"

/-- Five automation controllers, each with an API route and without an id. -/
def fiveControllers : Database where
  toTables :=
    { serviceTypes := [⟨1, "controller", none, none, none, none⟩]
      serviceClusters := [1, 2, 3, 4, 5].map fun n =>
        { pk := n, name := "controller-" ++ n.repr, serviceType := 1, serviceId := none }
      httpPorts := [{ pk := 1, name := "api", number := 443, isApiPort := true }]
      routes := [1, 2, 3, 4, 5].map controllerAPIRoute }
  integrity := by decide

instance neZero_sixteen : NeZero 16 := ⟨by decide⟩

/-- The id of the controller with a number. -/
def controllerId (n : Fin 16) : Uuid := ⟨n, by omega⟩

/-- Every controller answers with its own id. -/
def controllersAnswer : PopulateEnv where
  now := 1000
  getServiceMetadata := fun serviceApi =>
    .ok ⟨200, (controllerId (Fin.ofNat 16 serviceApi.serviceCluster.pk)).str⟩

/-- The answer of a controller is read as it is. -/
theorem fetchServiceIdForRoute_controllersAnswer (serviceApi : RouteInstance) :
    controllersAnswer.fetchServiceIdForRoute serviceApi =
      some (controllerId (Fin.ofNat 16 serviceApi.serviceCluster.pk)).str := by
  rw [PopulateEnv.fetchServiceIdForRoute]
  simp only [controllersAnswer, ne_eq, not_true_eq_false, if_false, Uuid.strip_str,
    Uuid.parse_str, Option.map_some]

/-- A controller reports the id with its number. -/
theorem reports_controllersAnswer (n : Fin 16) (serviceApi : RouteInstance) :
    controllersAnswer.reports (controllerId n).str serviceApi = true ↔
      Fin.ofNat 16 serviceApi.serviceCluster.pk = n := by
  rw [PopulateEnv.reports, fetchServiceIdForRoute_controllersAnswer, decide_eq_true_eq,
    Option.some.injEq, Uuid.str_injective.eq_iff, controllerId, controllerId, Uuid.mk.injEq,
    Fin.val_inj]

/-- The ids of the fourth and of the fifth controller are reported. -/
theorem findable_controllers :
    ∀ n ∈ [4, 5], Findable controllersAnswer Dict.empty fiveControllers (controllerId n).str
      (controllerId n) := by
  intro n hn
  have hclock : populateCooldownSeconds ≤ controllersAnswer.now := by
    unfold populateCooldownSeconds controllersAnswer
    norm_num
  refine ⟨Uuid.parse_str _, checkAndSetCooldown_empty _ hclock, ?_, ?_, ?_⟩
  · -- no controller has an id
    have hnone : ∀ c ∈ fiveControllers.serviceClusters, c.serviceId = none := by decide
    intro c hc hid
    rw [hnone c hc] at hid
    cases hid
  · intro serviceApi _
    rw [fetchServiceIdForRoute_controllersAnswer]
    exact Option.some_ne_none _
  · have hreported : ∀ n ∈ [4, 5], ∃ serviceApi ∈ eligibleRoutes fiveControllers.toTables,
        Fin.ofNat 16 serviceApi.serviceCluster.pk = n := by decide
    obtain ⟨serviceApi, hmem, hpk⟩ := hreported n hn
    exact ⟨serviceApi, hmem, (reports_controllersAnswer n serviceApi).mpr hpk⟩

/-- The fourth controller is found by its id. -/
theorem populateServiceId_fourthController :
    (populateServiceId controllersAnswer Dict.empty fiveControllers
      (controllerId 4).str).Complete controllersAnswer fiveControllers.toTables
      (controllerId 4) := by
  refine ((populateServiceId_iff controllersAnswer Dict.empty fiveControllers
    (controllerId 4).str).2 _ (findable_controllers 4 (by decide))).mpr ?_
  have hprobed : ∃ serviceApi ∈ probedRoutes fiveControllers.toTables,
      Fin.ofNat 16 serviceApi.serviceCluster.pk = 4 := by decide
  obtain ⟨serviceApi, hmem, hpk⟩ := hprobed
  exact ⟨serviceApi, hmem, (reports_controllersAnswer 4 serviceApi).mpr hpk⟩

/-- The fifth controller reports its id and is not asked for it. -/
theorem not_complete_fifthController :
    Findable controllersAnswer Dict.empty fiveControllers (controllerId 5).str (controllerId 5) ∧
      ¬(populateServiceId controllersAnswer Dict.empty fiveControllers
        (controllerId 5).str).Complete controllersAnswer fiveControllers.toTables
          (controllerId 5) := by
  refine ⟨findable_controllers 5 (by decide), ?_⟩
  rintro ⟨serviceApi, -, -, hreturned, -⟩
  have hfindable := findable_controllers 5 (by decide)
  -- the fifth controller is not one of those that are asked
  have hprobed : ∀ serviceApi ∈ probedRoutes fiveControllers.toTables,
      Fin.ofNat 16 serviceApi.serviceCluster.pk ≠ 5 := by decide
  have hfind : (probedRoutes fiveControllers.toTables).find?
      (controllersAnswer.reports (controllerId 5).str) = none :=
    List.find?_eq_none.mpr fun serviceApi hmem hreports =>
      hprobed serviceApi hmem ((reports_controllersAnswer 5 serviceApi).mp hreports)
  rw [(populateServiceId_of_ready _ hfindable.parse hfindable.ready).1,
    probe_eq_none fiveControllers hfind] at hreturned
  cases hreturned

end ServiceToken

end AapGateway
