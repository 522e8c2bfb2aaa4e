import AapGateway.Foundations.Aggregate
import AapGateway.Xds.Discovery

/-!
# Health check timeouts

A health check of a service cluster has to wait as long as the slowest route of the cluster may
take. The largest request timeout of the routes is asked for in three ways: by the cluster itself,
by the annotation of the viewset, and by cluster discovery for all clusters of a response in one
query, whose answer is looked up in a dictionary.

## Main definitions

* `Tables.annotateMaxRouteTimeout`: the annotation of a query for clusters;
* `cdsStash`: what cluster discovery leaves in the attribute `_max_route_timeout`;
* `HealthChecksAgree`: the three ways give one timeout, which bounds those of the routes and is at
  most the interval.

## Main results

* `cdsResponse_eq`: cluster discovery responds with what the clusters themselves compute;
* `healthChecksAgree`: the health checks of every cluster of a database agree.
-/

namespace AapGateway

open Aggregate

/-- A row of `cluster.routes`. -/
def ServiceCluster.hasRoute (c : ServiceCluster ℕ) (r : Route ℕ) : Bool :=
  r.serviceCluster = c.pk

/-- `.annotate(m=Max('routes__request_timeout_seconds'))` of a query for clusters. -/
def Tables.annotateMaxRouteTimeout (t : Tables) (clusters : List (ServiceCluster ℕ)) :
    List (ServiceCluster ℕ × Option ℕ) :=
  annotateMax ServiceCluster.hasRoute Route.requestTimeoutSeconds clusters t.routes

/-- `ServiceClusterViewSet.get_queryset`, filtered by the request: each cluster with its
`_max_route_timeout`. -/
def viewSetQueryset (t : Tables) (selected : ServiceCluster ℕ → Bool) :
    List (ServiceCluster ℕ × Option ℕ) :=
  t.annotateMaxRouteTimeout (t.serviceClusters.filter selected)

/-- `max_timeouts` of `ClusterDiscoverServiceView.post`: the items of the dictionary, for the
clusters of the routes in the response. -/
def cdsMaxTimeouts (t : Tables) (routes : List (Route ℕ)) : List (ℕ × Option ℕ) :=
  let clusterIds := routes.map Route.serviceCluster
  (t.annotateMaxRouteTimeout (t.serviceClusters.filter fun c => clusterIds.contains c.pk)).map
    fun row => (row.1.pk, row.2)

/-- `_max_route_timeout`, as `ClusterDiscoverServiceView.post` sets it: `max_timeouts.get(pk)`. -/
def cdsStash (t : Tables) (routes : List (Route ℕ)) (clusterPk : ℕ) : Option (Option ℕ) :=
  -- `dict` keeps the last of the items with a key. A missing key gives `None`, as no maximum does.
  some (((cdsMaxTimeouts t routes).reverse.lookup clusterPk).join)

/-- The clusters of the response of `ClusterDiscoverServiceView.post`. -/
def cdsResponse (env : XdsEnv) (t : Tables) (resourceNames : Option String) : List ClusterConfig :=
  let routes := getQs Route.envoyClusterName t.routes resourceNames
  (routes.filterMap t.resolveRoute).map
    fun r => r.getXdsClusterConfig env t (cdsStash t routes r.serviceCluster.pk)

/-- `get_effective_health_check_interval_seconds` with its optional argument. -/
def ServiceCluster.effectiveInterval {T : Type} (t : Tables) (c : ServiceCluster T)
    (stash : Option (Option ℕ)) (effectiveTimeout : Option ℤ) : ℤ :=
  c.getEffectiveHealthCheckIntervalSeconds
    (effectiveTimeout.getD (c.getEffectiveHealthCheckTimeoutSeconds t stash))

/-- The health checks of a cluster agree. -/
structure HealthChecksAgree (t : Tables) (c : ServiceCluster ℕ) : Prop where
  /-- Cluster discovery, for any response with a route of the cluster, and the cluster itself. -/
  cds : ∀ resourceNames, ∀ r ∈ getQs Route.envoyClusterName t.routes resourceNames,
    r.serviceCluster = c.pk →
      c.getEffectiveHealthCheckTimeoutSeconds t
          (cdsStash t (getQs Route.envoyClusterName t.routes resourceNames) c.pk) =
        c.getEffectiveHealthCheckTimeoutSeconds t none
  /-- The viewset, which has the cluster whenever it is selected, and the cluster itself. -/
  viewSet : ∀ selected, selected c = true → ∃ maxRouteTimeout,
    (∀ m, (c, m) ∈ viewSetQueryset t selected ↔ m = maxRouteTimeout) ∧
      c.getEffectiveHealthCheckTimeoutSeconds t (some maxRouteTimeout) =
        c.getEffectiveHealthCheckTimeoutSeconds t none
  /-- A check waits as long as any route of the cluster may take. -/
  route_le : ∀ r ∈ t.routesOf c.pk, r.getEffectiveTimeoutSeconds t.preferences ≤
    c.getEffectiveHealthCheckTimeoutSeconds t none
  /-- The next check comes after that. -/
  le_interval : ∀ stash, c.getEffectiveHealthCheckTimeoutSeconds t stash ≤
      c.effectiveInterval t stash none ∧
    c.getEffectiveHealthCheckTimeoutSeconds t stash ≤
      c.effectiveInterval t stash (some (c.getEffectiveHealthCheckTimeoutSeconds t stash))

section Agreement

variable {db : Database} {c : ServiceCluster ℕ}

/-- `self.routes.exclude(request_timeout_seconds__isnull=True).aggregate(Max(...))`, which is what a
cluster without the attribute asks for. -/
theorem maxRouteTimeout_eq (t : Tables) (c : ServiceCluster ℕ) :
    t.maxRouteTimeout c.pk =
      aggregateMax (((t.routesOf c.pk).filter fun r => r.requestTimeoutSeconds.isSome).map
        Route.requestTimeoutSeconds) := by
  rw [aggregateMax_filter_isSome]
  unfold Tables.maxRouteTimeout aggregateMax
  rw [List.filterMap_map]
  rfl

/-- The keys of the clusters are distinct. -/
theorem nodup_pk_clusters (db : Database) : (db.serviceClusters.map ServiceCluster.pk).Nodup :=
  db.integrity.1.2.2.1

/-- The annotation of any query for clusters is what the cluster itself asks for. -/
theorem mem_annotateMaxRouteTimeout_iff {selected : ServiceCluster ℕ → Bool} {m : Option ℕ} :
    (c, m) ∈ db.annotateMaxRouteTimeout (db.serviceClusters.filter selected) ↔
      (c ∈ db.serviceClusters ∧ selected c = true) ∧ m = db.maxRouteTimeout c.pk := by
  have hnodup : (db.serviceClusters.filter selected).Nodup :=
    (List.Nodup.of_map _ (nodup_pk_clusters db)).filter _
  -- The join has a row with a null for a cluster without routes, and `Max` skips the nulls.
  rw [Tables.annotateMaxRouteTimeout, mem_annotateMax_iff hnodup, List.mem_filter,
    maxRouteTimeout_eq, aggregateMax_filter_isSome]
  rfl

/-- The dictionary of cluster discovery has it too, for the clusters of the response. -/
theorem cdsStash_eq {routes : List (Route ℕ)} {r : Route ℕ} (hc : c ∈ db.serviceClusters)
    (hr : r ∈ routes) (hpk : r.serviceCluster = c.pk) :
    cdsStash db.toTables routes c.pk = some (db.maxRouteTimeout c.pk) := by
  have hmem : ∀ {c' : ServiceCluster ℕ} {m : Option ℕ},
      (c', m) ∈ db.annotateMaxRouteTimeout (db.serviceClusters.filter fun c =>
        (routes.map Route.serviceCluster).contains c.pk) → m = db.maxRouteTimeout c'.pk :=
    fun h => (mem_annotateMaxRouteTimeout_iff.mp h).2
  have hselected : (routes.map Route.serviceCluster).contains c.pk = true :=
    List.contains_iff_mem.mpr (hpk ▸ List.mem_map_of_mem hr)
  have hthere : (c.pk, db.maxRouteTimeout c.pk) ∈ (cdsMaxTimeouts db.toTables routes).reverse :=
    List.mem_reverse.mpr (List.mem_map.mpr
      ⟨(c, _), mem_annotateMaxRouteTimeout_iff.mpr ⟨⟨hc, hselected⟩, rfl⟩, rfl⟩)
  unfold cdsStash
  cases hlookup : (cdsMaxTimeouts db.toTables routes).reverse.lookup c.pk with
  | none =>
      -- The cluster was selected for the dictionary, since a route of the response has its key.
      rw [List.lookup_eq_none_iff] at hlookup
      exact absurd (hlookup _ hthere) (by simp)
  | some m =>
      -- Whatever item of that key is found, its value is the maximum.
      obtain ⟨before, after, hsplit, -⟩ := List.lookup_eq_some_iff.mp hlookup
      have hfound : (c.pk, m) ∈ (cdsMaxTimeouts db.toTables routes).reverse := by
        rw [hsplit]
        exact List.mem_append_right _ List.mem_cons_self
      obtain ⟨row, hrow, heq⟩ := List.mem_map.mp (List.mem_reverse.mp hfound)
      obtain ⟨hpk', rfl⟩ := Prod.mk.inj heq
      rw [hmem hrow, hpk']
      rfl

/-- What a query of a discovery view returns are rows of the table. -/
theorem mem_of_mem_getQs {α : Type} {name : α → String} {rows : List α}
    {resourceNames : Option String} {a : α} (h : a ∈ getQs name rows resourceNames) : a ∈ rows := by
  have hqs : ∀ {a}, a ∈ Table.distinctOn name (rows.insertionSort fun a b => name a ≤ name b) →
      a ∈ rows := fun hmem =>
    (List.perm_insertionSort _ rows).mem_iff.mp (Table.mem_of_mem_distinctOn hmem)
  unfold getQs at h
  cases resourceNames with
  | none => exact hqs h
  | some names =>
      dsimp only at h
      split at h
      · exact hqs h
      · exact hqs (List.mem_filter.mp h).1

/-- Cluster discovery responds with what the clusters themselves compute. -/
theorem cdsResponse_eq (env : XdsEnv) (db : Database) (resourceNames : Option String) :
    cdsResponse env db.toTables resourceNames = cdsResources env db.toTables resourceNames := by
  refine List.map_congr_left fun inst hinst => ?_
  obtain ⟨r, hr, hresolve⟩ := List.mem_filterMap.mp hinst
  have hroute : r ∈ db.routes := mem_of_mem_getQs hr
  obtain ⟨c, hc, s, -, hpk, -, hcluster⟩ := db.exists_resolveRoute hroute
  rw [Tables.resolveRoute, hcluster] at hresolve
  obtain rfl := Option.some.inj hresolve
  congr 1
  exact cdsStash_eq hc hr hpk.symm

/-- The timeout of a route bounds the timeouts of the health checks from below. -/
theorem getEffectiveTimeoutSeconds_le {t : Tables} {r : Route ℕ} (hr : r ∈ t.routesOf c.pk) :
    r.getEffectiveTimeoutSeconds t.preferences ≤
      c.getEffectiveHealthCheckTimeoutSeconds t none := by
  unfold Route.getEffectiveTimeoutSeconds ServiceCluster.getEffectiveHealthCheckTimeoutSeconds
  have hroute : (r.requestTimeoutSeconds.getD 0) ≤ (t.maxRouteTimeout c.pk).getD 0 := by
    -- A route without a timeout takes part in neither maximum.
    cases hseconds : r.requestTimeoutSeconds with
    | none => exact Nat.zero_le _
    | some seconds =>
        rw [maxRouteTimeout_eq, aggregateMax_filter_isSome]
        obtain ⟨m, hm, hle⟩ := le_aggregateMax (List.mem_map.mpr ⟨r, hr, hseconds⟩)
        rw [hm]
        exact hle
  have hcast : ((r.requestTimeoutSeconds.getD 0 : ℕ) : ℤ) ≤ (t.maxRouteTimeout c.pk).getD 0 := by
    exact_mod_cast hroute
  -- Both end with the maximum over the defaults of the preferences.
  apply max_le_max _ le_rfl
  exact hcast.trans (le_max_right _ _)

end Agreement

/-- The health checks of every service cluster agree. -/
theorem healthChecksAgree (db : Database) {c : ServiceCluster ℕ} (hc : c ∈ db.serviceClusters) :
    HealthChecksAgree db.toTables c where
  cds := by
    intro resourceNames r hr hpk
    rw [cdsStash_eq hc hr hpk]
    rfl
  viewSet := by
    intro selected hselected
    refine ⟨db.maxRouteTimeout c.pk, fun m => ?_, rfl⟩
    rw [viewSetQueryset, mem_annotateMaxRouteTimeout_iff]
    exact ⟨And.right, fun hm => ⟨⟨hc, hselected⟩, hm⟩⟩
  route_le := fun r hr => getEffectiveTimeoutSeconds_le hr
  le_interval := fun stash => ⟨le_max_right _ _, le_max_right _ _⟩

/-- A controller cluster. -/
def slowCluster : ServiceCluster ℕ where
  pk := 1
  name := "controller"
  serviceType := 1
  serviceId := none

/-- A route of the controller with a timeout. -/
def slowRoute (pk : ℕ) (requestTimeoutSeconds : Option ℕ) : Route ℕ where
  pk := pk
  name := "route " ++ pk.repr
  httpPort := 1
  serviceCluster := 1
  servicePort := 8052
  isServiceHttps := false
  servicePath := "/"
  gatewayPath := "/" ++ pk.repr ++ "/"
  envoyClusterName := "cluster-1-8052-nodes:*"
  requestTimeoutSeconds := requestTimeoutSeconds

/-- The controller with a route without a timeout, one with zero and one with an hour. -/
def slowDatabase : Database where
  serviceTypes := [⟨1, "controller", none, none, none, none⟩]
  serviceClusters := [slowCluster]
  httpPorts := [{ pk := 1, name := "main", number := 443, isApiPort := true }]
  routes := [slowRoute 1 none, slowRoute 2 (some 0), slowRoute 3 (some 3600)]
  integrity := by decide

/-- Its health checks wait for an hour, however the timeout is computed. -/
theorem healthChecksAgree_slow :
    slowCluster.getEffectiveHealthCheckTimeoutSeconds slowDatabase.toTables none = 3600 ∧
      HealthChecksAgree slowDatabase.toTables slowCluster :=
  ⟨by decide, healthChecksAgree slowDatabase List.mem_cons_self⟩

end AapGateway
