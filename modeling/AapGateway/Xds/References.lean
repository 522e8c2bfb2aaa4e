import AapGateway.Xds.ClusterNames

/-!
# References between discovery responses

A listener sends requests to clusters by name, and Envoy learns the clusters from another
response. The two responses are built by different queries: cluster discovery selects one row
for each cluster name, listener discovery walks the routes of every port and looks the gateway's
own cluster up separately. This module shows that both start from the same names.

## Main definitions

* `RouteAction.cluster`: the cluster an entry sends a request to;
* `ReferencesResolve`: cluster names are unique, and every name a listener uses is defined.

## Main results

* `nodup_name_cdsResources`: cluster discovery emits a name once;
* `exists_route_of_cluster`: every name a listener uses is the cluster name of a stored route;
* `referencesResolve`: the responses built from one database fit together.
-/

namespace AapGateway

/-- The cluster an action sends a request to. A direct response and a redirect have none. -/
def RouteAction.cluster : RouteAction → Option String
  | .route _ cluster _ _ _ => some cluster
  | .directResponse _ _ => none
  | .redirect _ _ => none

/-- The cluster names are pairwise distinct, and every cluster an entry of a listener sends
requests to is one of them. -/
def ReferencesResolve (clusters : List ClusterConfig) (listeners : List ListenerConfig) : Prop :=
  (clusters.map ClusterConfig.name).Nodup ∧
  ∀ l ∈ listeners, ∀ e ∈ l.filter.routes, ∀ name ∈ e.action.cluster,
    name ∈ clusters.map ClusterConfig.name

/-- The rows of a discovery query have pairwise distinct names, whatever was asked for. -/
theorem nodup_map_getQs {α : Type} (name : α → String) (rows : List α)
    (resourceNames : Option String) : ((getQs name rows resourceNames).map name).Nodup := by
  have hdistinct := Table.distinctOn_nodup name
    (rows.insertionSort (fun a b => name a ≤ name b))
  unfold getQs
  cases resourceNames with
  | none => exact hdistinct
  | some names =>
      show ((if names = "" ∨ names = "*" then _ else _ : List α).map name).Nodup
      split
      · exact hdistinct
      · exact hdistinct.sublist ((List.filter_sublist).map name)

/-- A resolved route has the cluster name of its row. -/
theorem Tables.envoyClusterName_of_resolveRoute {t : Tables} {r : Route ℕ} {ri : RouteInstance}
    (h : t.resolveRoute r = some ri) : ri.envoyClusterName = r.envoyClusterName := by
  obtain ⟨c, -, rfl⟩ := Option.map_eq_some_iff.mp h
  rfl

/-- The names cluster discovery emits are names of the rows it selects, in their order. -/
theorem map_name_cdsResources_sublist (env : XdsEnv) (t : Tables) (resourceNames : Option String) :
    ((cdsResources env t resourceNames).map ClusterConfig.name).Sublist
      ((getQs Route.envoyClusterName t.routes resourceNames).map Route.envoyClusterName) := by
  unfold cdsResources
  rw [List.map_map]
  -- A configuration carries the name of its route, and a route the name of its row.
  show (List.map Route.envoyClusterName (List.filterMap t.resolveRoute _)).Sublist _
  induction getQs Route.envoyClusterName t.routes resourceNames with
  | nil => exact List.Sublist.slnil
  | cons r rows ih =>
      cases hresolve : t.resolveRoute r with
      | none =>
          rw [List.filterMap_cons_none hresolve]
          exact ih.cons _
      | some ri =>
          rw [List.filterMap_cons_some hresolve, List.map_cons, List.map_cons,
            Tables.envoyClusterName_of_resolveRoute hresolve]
          exact ih.cons_cons _

/-- Cluster discovery emits a name once. -/
theorem nodup_name_cdsResources (env : XdsEnv) (t : Tables) (resourceNames : Option String) :
    ((cdsResources env t resourceNames).map ClusterConfig.name).Nodup :=
  (nodup_map_getQs Route.envoyClusterName t.routes resourceNames).sublist
    (map_name_cdsResources_sublist env t resourceNames)

section References

variable {env : XdsEnv} {db : Database}

/-- The cluster name of every stored route is emitted by cluster discovery. -/
theorem envoyClusterName_mem_cdsResources {r : Route ℕ} (h : r ∈ db.routes) :
    r.envoyClusterName ∈ (cdsResources env db.toTables none).map ClusterConfig.name := by
  obtain ⟨b, -, bi, -, -, hfilter⟩ := exists_representative env h
  have hmem : bi.getXdsClusterConfig env db.toTables none ∈
      (cdsResources env db.toTables none).filter (fun c => c.name = r.envoyClusterName) := by
    rw [hfilter]
    exact List.mem_singleton_self _
  obtain ⟨hmem, hname⟩ := List.mem_filter.mp hmem
  exact List.mem_map.mpr ⟨_, hmem, of_decide_eq_true hname⟩

/-- The gateway's own cluster name is the cluster name of a stored route. -/
theorem exists_route_of_gatewayClusterName {t : Tables} {name : String}
    (h : t.gatewayClusterName = some name) : ∃ r ∈ t.routes, r.envoyClusterName = name := by
  unfold Tables.gatewayClusterName at h
  obtain ⟨sc, -, h⟩ := Option.bind_eq_some_iff.mp h
  obtain ⟨gwRoute, hfirst, h⟩ := Option.bind_eq_some_iff.mp h
  have hmem : gwRoute ∈ t.routesOf sc.pk := Table.mem_of_firstByKey_eq_some hfirst
  exact ⟨gwRoute, (List.mem_filter.mp hmem).1, Option.some.inj h⟩

/-- The routes a port configures are its resolved rows of the route table. -/
theorem HTTPPort.mem_configuredRoutes {t : Tables} {p : HTTPPort} {ri : RouteInstance} :
    ri ∈ p.configuredRoutes t ↔
      ∃ r ∈ t.routes, r.httpPort = p.pk ∧ t.resolveRoute r = some ri := by
  unfold HTTPPort.configuredRoutes
  rw [List.mem_insertionSort, List.mem_filterMap]
  constructor
  · rintro ⟨r, hr, hresolve⟩
    obtain ⟨hmem, hport⟩ := List.mem_filter.mp hr
    exact ⟨r, hmem, of_decide_eq_true hport, hresolve⟩
  · rintro ⟨r, hmem, hport, hresolve⟩
    exact ⟨r, List.mem_filter.mpr ⟨hmem, decide_eq_true hport⟩, hresolve⟩

/-- Every cluster name an entry of a port uses is the cluster name of a stored route. -/
theorem HTTPPort.exists_route_of_cluster {t : Tables} {p : HTTPPort} {e : RouteEntry}
    {name : String} (he : e ∈ p.routeEntries t (some t.gatewayClusterName))
    (hname : name ∈ e.action.cluster) : ∃ r ∈ t.routes, r.envoyClusterName = name := by
  unfold HTTPPort.routeEntries at he
  rcases List.mem_append.mp he with hfixed | hroute
  · -- `/up` and the redirects are answered by Envoy itself.
    rcases List.mem_cons.mp hfixed with rfl | hredirect
    · cases hname
    · split at hredirect
      · obtain ⟨entry, -, rfl⟩ := List.mem_map.mp hredirect
        cases hname
      · exact absurd hredirect List.not_mem_nil
  · obtain ⟨ri, hri, he⟩ := List.mem_flatMap.mp hroute
    rcases Route.mem_getXdsRouteConfig he with rfl | ⟨-, cluster, page, gatewayPage, hgw, rfl⟩
    · obtain ⟨r, hr, -, hresolve⟩ := mem_configuredRoutes.mp hri
      have heq : ri.envoyClusterName = name := Option.some.inj hname
      exact ⟨r, hr, by rw [← heq, Tables.envoyClusterName_of_resolveRoute hresolve]⟩
    · have heq : cluster = name := Option.some.inj hname
      subst heq
      exact exists_route_of_gatewayClusterName hgw

/-- The responses built from one database fit together: cluster names are unique, and every
cluster a listener refers to is defined, whichever listeners were asked for. -/
theorem referencesResolve (env : XdsEnv) (db : Database) (resourceNames : Option String) :
    ReferencesResolve (cdsResources env db.toTables none)
      (ldsResources env db.toTables resourceNames) := by
  refine ⟨nodup_name_cdsResources env db.toTables none, ?_⟩
  intro l hl e he name hname
  obtain ⟨p, -, rfl⟩ := List.mem_map.mp hl
  obtain ⟨r, hr, rfl⟩ := HTTPPort.exists_route_of_cluster he hname
  exact envoyClusterName_mem_cdsResources hr

end References

end AapGateway
