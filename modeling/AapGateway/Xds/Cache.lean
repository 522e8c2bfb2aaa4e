import AapGateway.Foundations.CacheAside
import AapGateway.Xds.ClusterNames

/-!
# The discovery cache

Discovery responses are cached under three keys, and the receivers of model signals drop the keys
a change may affect. This module ties the receivers to what the three builders read: a change
that leaves a key cached must leave the response under that key as it was.

Two changes have no receiver. A service type is read by the cluster and listener builders, and
the timeout preferences are read by both; saving one of them leaves the cached responses in
place. `Object.Keeps` says when such a save changes nothing a builder reads.

## Main results

* `rebuild_save` and `rebuild_delete`: the responses a committed change leaves cached are
  unchanged, for every object with a receiver and for every save that `Keeps` the key;
* `served_eq_rebuild_of_harmless`: along every run whose saves keep the cached keys, every
  response served from the cache is the one rebuilt from the database.
-/

namespace AapGateway

/-- The keys the receivers of `signals/xds_cache.py` drop for a sender. -/
def receivers : Sender → List XdsKey
  | .route => [.cds, .lds]
  | .additionalRoute => [.cds, .lds]
  | .serviceAPIRoute => [.cds, .lds]
  | .uiPluginRoute => [.cds, .lds]
  | .httpPort => [.lds]
  | .serviceCluster => [.cds, .lds]
  | .serviceNode => [.cds]
  | .caCertificate => [.sds]
  | .serviceType => []
  | .preference => []

/-- The sender of `post_save`: the class whose `save` is called. -/
def Object.sender : Object → Sender
  | .serviceType _ => .serviceType
  | .serviceCluster _ => .serviceCluster
  | .serviceNode _ => .serviceNode
  | .httpPort _ => .httpPort
  | .route r => r.kind.sender
  | .caCertificate _ => .caCertificate
  | .preferences _ => .preference

/-- A route is deleted with its rows in the tables of its class and of `Route`. -/
def Route.deletedSenders (r : Route ℕ) : List Sender :=
  [r.kind.sender, .route]

namespace Tables

/-- The senders of `post_delete` when the clusters that satisfy `p` are deleted. -/
def clusterDeletedSenders (t : Tables) (p : ServiceCluster ℕ → Bool) : List Sender :=
  let gone := (t.serviceClusters.filter p).map ServiceCluster.pk
  gone.map (fun _ => .serviceCluster) ++
    (t.serviceNodes.filter fun n => gone.contains n.serviceCluster).map (fun _ => .serviceNode) ++
    (t.routes.filter fun r => gone.contains r.serviceCluster).flatMap Route.deletedSenders

/-- The senders of `post_delete`, one for each deleted row. -/
def deletedSenders (t : Tables) : Target → List Sender
  | .serviceType pk =>
    (t.serviceTypes.filter fun s => s.pk = pk).map (fun _ => .serviceType) ++
      t.clusterDeletedSenders fun c => c.serviceType = pk
  | .serviceCluster pk => t.clusterDeletedSenders fun c => c.pk = pk
  | .serviceNode pk => (t.serviceNodes.filter fun n => n.pk = pk).map fun _ => .serviceNode
  | .httpPort pk =>
    (t.httpPorts.filter fun p => p.pk = pk).map (fun _ => .httpPort) ++
      (t.routes.filter fun r => r.httpPort = pk).flatMap Route.deletedSenders
  | .route pk => (t.routes.filter fun r => r.pk = pk).flatMap Route.deletedSenders
  | .caCertificate pk =>
    (t.caCertificates.filter fun c => c.pk = pk).map fun _ => .caCertificate

end Tables

/-- A save as a transaction: the committed database and the keys dropped on commit. -/
def saveCommit (serviceId : String) (obj : Object) (db : Database) :
    Option (Database × List XdsKey) :=
  match db.save serviceId obj with
  | .ok db' => some (db', receivers obj.sender)
  | .error _ => none

/-- A delete as a transaction: the committed database and the keys dropped on commit. -/
def deleteCommit (target : Target) (db : Database) : Option (Database × List XdsKey) :=
  match db.delete target with
  | .ok db' => some (db', (db.deletedSenders target).flatMap receivers)
  | .error _ => none

/-- The discovery responses as values built from the database. -/
def xdsSystem (env : XdsEnv) : CacheAside.System Database XdsKey DiscoveryResponse where
  build key db := rebuild env db.toTables key
  cacheable := DiscoveryResponse.cacheable

/-- Saving the object changes nothing that the builder of a response reads. Objects whose class
has a receiver for the key are not constrained. -/
def Object.Keeps (t : Tables) : Object → XdsKey → Prop
  | .serviceType s, .cds =>
    ∀ c ∈ t.serviceClusters, c.serviceType = s.pk → c.healthChecksEnabled = true →
      ∀ old ∈ t.serviceTypes, old.pk = s.pk → s.pingUrl = old.pingUrl
  | .serviceType s, .lds =>
    ∀ c ∈ t.serviceClusters, c.serviceType = s.pk →
      ∀ old ∈ t.serviceTypes, old.pk = s.pk →
        s.name = old.name ∧ s.loginPath = old.loginPath ∧ s.logoutPath = old.logoutPath
  | .preferences p, .cds =>
    ∀ c ∈ t.serviceClusters, c.healthChecksEnabled = true →
      c.getEffectiveHealthCheckTimeoutSeconds { t with preferences := p } none =
        c.getEffectiveHealthCheckTimeoutSeconds t none
  | .preferences p, .lds =>
    ∀ r ∈ t.routes,
      r.getEffectiveTimeoutSeconds p = r.getEffectiveTimeoutSeconds t.preferences ∧
        r.getEffectiveIdleTimeoutSeconds p = r.getEffectiveIdleTimeoutSeconds t.preferences
  | _, _ => True

/-! ## What the cluster builder reads -/

/-- The part of a cluster that the cluster builder reads: of the service type only the ping URL,
and that only for health checks. -/
def ServiceCluster.cdsView (c : ServiceCluster ServiceType) : ServiceCluster ServiceType :=
  { c with
    serviceType :=
      ⟨0, "", if c.healthChecksEnabled then c.serviceType.pingUrl else none, none, none, none⟩ }

/-- The cluster builder reads no more than the view. -/
theorem getXdsClusterConfig_cdsView (env : XdsEnv) (t : Tables) (r : Route ℕ)
    (c : ServiceCluster ServiceType) (stash : Option (Option ℕ)) :
    (r.withCluster c.cdsView).getXdsClusterConfig env t stash =
      (r.withCluster c).getXdsClusterConfig env t stash := by
  have hhealth : (r.withCluster c.cdsView).healthChecks t stash =
      (r.withCluster c).healthChecks t stash := by
    unfold Route.healthChecks
    show (if c.healthChecksEnabled then _ else _) = if c.healthChecksEnabled then _ else _
    split
    · rename_i henabled
      simp [Route.withCluster, ServiceCluster.cdsView, henabled,
        ServiceCluster.getEffectiveHealthCheckTimeoutSeconds,
        ServiceCluster.getEffectiveHealthCheckIntervalSeconds]
    · rfl
  unfold Route.getXdsClusterConfig
  rw [hhealth]
  rfl

/-- The clusters of a discovery response, row by row. -/
theorem cdsResources_eq (env : XdsEnv) (t : Tables) :
    cdsResources env t none =
      (getQs Route.envoyClusterName t.routes none).filterMap fun r =>
        (t.clusterByPk r.serviceCluster).map fun c =>
          (r.withCluster c).getXdsClusterConfig env t none := by
  unfold cdsResources
  rw [List.map_filterMap]
  apply List.filterMap_congr
  intro r _
  rw [Tables.resolveRoute, Option.map_map]
  rfl

/-- Two service type tables that agree on what the cluster builder reads give the same clusters. -/
theorem cdsResources_congr_serviceTypes (env : XdsEnv) (t : Tables) (types : List ServiceType)
    (h : ∀ c ∈ t.serviceClusters,
      ({ t with serviceTypes := types }.resolveCluster c).map ServiceCluster.cdsView =
        (t.resolveCluster c).map ServiceCluster.cdsView) :
    cdsResources env { t with serviceTypes := types } none = cdsResources env t none := by
  rw [cdsResources_eq, cdsResources_eq]
  apply List.filterMap_congr
  intro r _
  have hview : ({ t with serviceTypes := types }.clusterByPk r.serviceCluster).map
      ServiceCluster.cdsView = (t.clusterByPk r.serviceCluster).map ServiceCluster.cdsView := by
    unfold Tables.clusterByPk
    cases hfind : t.serviceClusters.find? (·.pk = r.serviceCluster) with
    | none => rfl
    | some c => exact h c (List.mem_of_find?_eq_some hfind)
  have hconfig : ∀ x : Option (ServiceCluster ServiceType),
      (x.map fun c => (r.withCluster c).getXdsClusterConfig env t none) =
        (x.map ServiceCluster.cdsView).map fun c =>
          (r.withCluster c).getXdsClusterConfig env t none := by
    intro x
    rw [Option.map_map]
    congr 1
    funext c
    exact (getXdsClusterConfig_cdsView env t r c none).symm
  show (Option.map (fun c => (r.withCluster c).getXdsClusterConfig env t none) _) = _
  rw [hconfig, hview, ← hconfig]

/-! ## What the listener builder reads -/

/-- The part of a cluster that the listener builder reads: of the service type the name and the
two paths. -/
def ServiceCluster.ldsView (c : ServiceCluster ServiceType) : ServiceCluster ServiceType :=
  { c with
    serviceType :=
      ⟨0, c.serviceType.name, none, c.serviceType.loginPath, c.serviceType.logoutPath, none⟩ }

/-- The part of a route that the listener builder reads. -/
def Route.ldsView (r : RouteInstance) : RouteInstance :=
  { r with serviceCluster := r.serviceCluster.ldsView }

/-- The entries of a port, from its routes in order. -/
def HTTPPort.entriesOf (t : Tables) (p : HTTPPort) (gw : GatewayClusterArg)
    (routes : List RouteInstance) : List RouteEntry :=
  upRoute ::
    (if p.isApiPort then
      (HTTPPort.redirects routes).map fun (path, target) => redirectRoute path target
     else []) ++
    routes.flatMap fun r => r.getXdsRouteConfig t gw

/-- The redirects read only the paths of the routes. -/
theorem redirects_map_ldsView (routes : List RouteInstance) :
    HTTPPort.redirects (routes.map Route.ldsView) = HTTPPort.redirects routes := by
  unfold HTTPPort.redirects
  rw [List.filter_map, List.foldl_map]
  rfl

/-- The entries of a port read no more of its routes than their views. -/
theorem entriesOf_map_ldsView (t : Tables) (p : HTTPPort) (gw : GatewayClusterArg)
    (routes : List RouteInstance) :
    p.entriesOf t gw (routes.map Route.ldsView) = p.entriesOf t gw routes := by
  unfold HTTPPort.entriesOf
  rw [redirects_map_ldsView, List.flatMap_map]
  rfl

/-- Sorting by order commutes with taking views. -/
theorem configuredRoutes_map_ldsView (t : Tables) (p : HTTPPort) :
    (p.configuredRoutes t).map Route.ldsView =
      (((t.routes.filter (·.httpPort = p.pk)).filterMap t.resolveRoute).map
        Route.ldsView).insertionSort (fun a b => a.order ≤ b.order) := by
  unfold HTTPPort.configuredRoutes
  apply List.map_insertionSort
  intro a _ b _
  exact Iff.rfl

section LdsServiceTypes

variable {t : Tables} {types : List ServiceType}
  (h : ∀ c ∈ t.serviceClusters,
    ({ t with serviceTypes := types }.resolveCluster c).map ServiceCluster.ldsView =
      (t.resolveCluster c).map ServiceCluster.ldsView)

include h

/-- Resolved routes have the same views. -/
theorem resolveRoute_map_ldsView (r : Route ℕ) :
    ({ t with serviceTypes := types }.resolveRoute r).map Route.ldsView =
      (t.resolveRoute r).map Route.ldsView := by
  have hview : ({ t with serviceTypes := types }.clusterByPk r.serviceCluster).map
      ServiceCluster.ldsView = (t.clusterByPk r.serviceCluster).map ServiceCluster.ldsView := by
    unfold Tables.clusterByPk
    cases hfind : t.serviceClusters.find? (·.pk = r.serviceCluster) with
    | none => rfl
    | some c => exact h c (List.mem_of_find?_eq_some hfind)
  have hroute : ∀ x : Option (ServiceCluster ServiceType),
      (x.map r.withCluster).map Route.ldsView =
        (x.map ServiceCluster.ldsView).map r.withCluster := by
    intro x
    rw [Option.map_map, Option.map_map]
    rfl
  rw [Tables.resolveRoute, Tables.resolveRoute, hroute, hroute, hview]

/-- The routes of a port have the same views, in the same order. -/
theorem configuredRoutes_congr_serviceTypes (p : HTTPPort) :
    (p.configuredRoutes { t with serviceTypes := types }).map Route.ldsView =
      (p.configuredRoutes t).map Route.ldsView := by
  rw [configuredRoutes_map_ldsView, configuredRoutes_map_ldsView, List.map_filterMap,
    List.map_filterMap]
  congr 1
  apply List.filterMap_congr
  intro r _
  exact resolveRoute_map_ldsView h r

/-- The gateway's own cluster is found by the name of its type. -/
theorem gatewayClusterName_congr_serviceTypes :
    { t with serviceTypes := types }.gatewayClusterName = t.gatewayClusterName := by
  have hgateway : ∀ c ∈ t.serviceClusters,
      { t with serviceTypes := types }.isGatewayCluster c = t.isGatewayCluster c := by
    intro c hc
    -- The test reads only the name, which the view keeps.
    have hany : ∀ x : Option (ServiceCluster ServiceType),
        (x.any fun c => c.serviceType.name = DefaultServiceType.gateway.value) =
          (x.map ServiceCluster.ldsView).any fun c =>
            c.serviceType.name = DefaultServiceType.gateway.value := by
      intro x
      cases x <;> rfl
    rw [Tables.isGatewayCluster, Tables.isGatewayCluster, hany, h c hc, ← hany]
  unfold Tables.gatewayClusterName
  rw [List.filter_congr hgateway]
  rfl

/-- Two service type tables that agree on what the listener builder reads give the same
listeners. -/
theorem ldsResources_congr_serviceTypes (env : XdsEnv) :
    ldsResources env { t with serviceTypes := types } none = ldsResources env t none := by
  unfold ldsResources
  rw [gatewayClusterName_congr_serviceTypes h]
  apply List.map_congr_left
  intro p _
  have hentries : p.routeEntries { t with serviceTypes := types } (some t.gatewayClusterName) =
      p.routeEntries t (some t.gatewayClusterName) := by
    show p.entriesOf t (some t.gatewayClusterName)
        (p.configuredRoutes { t with serviceTypes := types }) =
      p.entriesOf t (some t.gatewayClusterName) (p.configuredRoutes t)
    rw [← entriesOf_map_ldsView, configuredRoutes_congr_serviceTypes h, entriesOf_map_ldsView]
  unfold HTTPPort.getXdsListenerConfig
  rw [hentries]

end LdsServiceTypes

/-! ## The timeout preferences -/

/-- Preferences that keep the effective health check timeouts give the same clusters. -/
theorem cdsResources_congr_preferences (env : XdsEnv) (t : Tables) (p : Preferences)
    (h : Object.Keeps t (.preferences p) .cds) :
    cdsResources env { t with preferences := p } none = cdsResources env t none := by
  rw [cdsResources_eq, cdsResources_eq]
  apply List.filterMap_congr
  intro r _
  show (t.clusterByPk r.serviceCluster).map _ = (t.clusterByPk r.serviceCluster).map _
  cases hfind : t.serviceClusters.find? (·.pk = r.serviceCluster) with
  | none => rw [Tables.clusterByPk, hfind]; rfl
  | some c =>
      have hmem := List.mem_of_find?_eq_some hfind
      rw [Tables.clusterByPk, hfind, Option.bind_some]
      cases htype : t.serviceTypes.find? (·.pk = c.serviceType) with
      | none => rw [Tables.resolveCluster, htype]; rfl
      | some s =>
          rw [Tables.resolveCluster, htype, Option.map_some, Option.map_some, Option.map_some]
          congr 1
          -- Only the health checks read the preferences.
          have hhealth : (r.withCluster { c with serviceType := s }).healthChecks
              { t with preferences := p } none =
                (r.withCluster { c with serviceType := s }).healthChecks t none := by
            unfold Route.healthChecks
            show (if c.healthChecksEnabled then _ else _) =
              if c.healthChecksEnabled then _ else _
            split
            · rename_i henabled
              have htimeout : ServiceCluster.getEffectiveHealthCheckTimeoutSeconds
                  { t with preferences := p } { c with serviceType := s } none =
                    ServiceCluster.getEffectiveHealthCheckTimeoutSeconds t
                      { c with serviceType := s } none := h c hmem henabled
              show [HealthCheck.mk _ _ _ _ _] = [HealthCheck.mk _ _ _ _ _]
              simp only [Route.withCluster, htimeout]
            · rfl
          unfold Route.getXdsClusterConfig
          rw [hhealth]
          rfl

/-- Preferences that keep the effective timeouts of the routes give the same listeners. -/
theorem ldsResources_congr_preferences (env : XdsEnv) (t : Tables) (p : Preferences)
    (h : Object.Keeps t (.preferences p) .lds) :
    ldsResources env { t with preferences := p } none = ldsResources env t none := by
  unfold ldsResources
  apply List.map_congr_left
  intro port _
  have hroute : ∀ ri ∈ port.configuredRoutes t,
      ri.getXdsRouteConfig { t with preferences := p } (some t.gatewayClusterName) =
        ri.getXdsRouteConfig t (some t.gatewayClusterName) := by
    intro ri hri
    obtain ⟨r, hr, hresolve⟩ :=
      List.mem_filterMap.mp ((List.perm_insertionSort _ _).mem_iff.mp hri)
    obtain ⟨c, -, rfl⟩ := Option.map_eq_some_iff.mp hresolve
    obtain ⟨htimeout, hidle⟩ := h r (List.mem_filter.mp hr).1
    -- The preferences enter the main entry through the two effective timeouts.
    have hmain : (r.withCluster c).mainEntry p = (r.withCluster c).mainEntry t.preferences := by
      have ht : (r.withCluster c).getEffectiveTimeoutSeconds p =
          (r.withCluster c).getEffectiveTimeoutSeconds t.preferences := htimeout
      have hi : (r.withCluster c).getEffectiveIdleTimeoutSeconds p =
          (r.withCluster c).getEffectiveIdleTimeoutSeconds t.preferences := hidle
      unfold Route.mainEntry
      rw [ht, hi]
    unfold Route.getXdsRouteConfig
    show (if _ then [] else _ ++ [(r.withCluster c).mainEntry p]) = _
    rw [hmain]
    rfl
  have hentries : port.routeEntries { t with preferences := p } (some t.gatewayClusterName) =
      port.routeEntries t (some t.gatewayClusterName) := by
    unfold HTTPPort.routeEntries
    show upRoute :: _ ++ (port.configuredRoutes t).flatMap _ = _
    rw [List.flatMap_congr hroute]
    rfl
  show port.getXdsListenerConfig env { t with preferences := p } (some t.gatewayClusterName) = _
  unfold HTTPPort.getXdsListenerConfig
  rw [hentries]

/-! ## What a committed change leaves cached -/

/-- Saving a service type changes no view of a cluster that `view` takes, if the new row and the
row of its key have the same view. -/
theorem resolveCluster_map_upsert (db : Database) (s : ServiceType)
    (view : ServiceCluster ServiceType → ServiceCluster ServiceType)
    (h : ∀ c ∈ db.serviceClusters, c.serviceType = s.pk → ∀ old ∈ db.serviceTypes,
      old.pk = s.pk → view { c with serviceType := s } = view { c with serviceType := old }) :
    ∀ c ∈ db.serviceClusters,
      ({ db.toTables with
          serviceTypes := Table.upsert ServiceType.pk s db.serviceTypes }.resolveCluster c).map
          view = (db.resolveCluster c).map view := by
  intro c hc
  obtain ⟨old, hold, hpk, hresolve⟩ := db.exists_resolveCluster hc
  rw [hresolve, Tables.resolveCluster, Table.find?_upsert]
  split
  · rename_i hs
    rw [Option.map_some, Option.map_some, Option.map_some]
    congr 1
    exact h c hc hs old hold (hpk.trans hs)
  · -- The cluster's own type is not touched.
    show (db.resolveCluster c).map view = _
    rw [hresolve]

/-- A save leaves the responses cached that it does not drop, if it keeps what they read. -/
theorem rebuild_save {env : XdsEnv} {serviceId : String} {db db' : Database} {obj : Object}
    {key : XdsKey} (h : db.save serviceId obj = .ok db') (hkey : key ∉ receivers obj.sender)
    (hkeeps : obj.Keeps db.toTables key) :
    rebuild env db'.toTables key = rebuild env db.toTables key := by
  -- One case for each model, and in it one for each of the three caches.
  have hwrite := Database.write_of_save h
  cases obj with
  | serviceType s =>
      rw [← Except.ok.inj hwrite]
      cases key with
      | cds =>
          refine congrArg DiscoveryResponse.clusters
            (cdsResources_congr_serviceTypes env db.toTables _ ?_)
          apply resolveCluster_map_upsert
          -- The clusters read the ping URL of their type only where health checks are enabled.
          intro c hc hs old hold hpk
          unfold ServiceCluster.cdsView
          cases henabled : c.healthChecksEnabled with
          | false => rfl
          | true =>
              have hping : s.pingUrl = old.pingUrl := hkeeps c hc hs henabled old hold hpk
              simp [hping]
      | lds =>
          refine congrArg DiscoveryResponse.listeners (ldsResources_congr_serviceTypes ?_ env)
          apply resolveCluster_map_upsert
          -- The listeners read the name and the two paths of the type.
          intro c hc hs old hold hpk
          obtain ⟨hname, hlogin, hlogout⟩ := hkeeps c hc hs old hold hpk
          unfold ServiceCluster.ldsView
          rw [hname, hlogin, hlogout]
      | sds => rfl
  | serviceCluster c =>
      cases hrow : c.prepare serviceId db.toTables with
      | error e => rw [Tables.write, hrow] at hwrite; cases hwrite
      | ok row =>
          rw [Tables.write, hrow] at hwrite
          rw [← Except.ok.inj hwrite]
          cases key with
          | cds => exact absurd (by simp [Object.sender, receivers]) hkey
          | lds => exact absurd (by simp [Object.sender, receivers]) hkey
          | sds => rfl
  | serviceNode n =>
      rw [← Except.ok.inj hwrite]
      cases key with
      | cds => exact absurd (by simp [Object.sender, receivers]) hkey
      | lds => rfl
      | sds => rfl
  | httpPort p =>
      rw [← Except.ok.inj hwrite]
      cases key with
      | cds => rfl
      | lds => exact absurd (by simp [Object.sender, receivers]) hkey
      | sds => rfl
  -- All kinds of routes clear the same two caches.
  | route r =>
      cases hrow : r.prepareAs db.toTables with
      | error e => rw [Tables.write, hrow] at hwrite; cases hwrite
      | ok row =>
          rw [Tables.write, hrow] at hwrite
          rw [← Except.ok.inj hwrite]
          have hkind : receivers r.kind.sender = [.cds, .lds] := by cases r.kind <;> rfl
          rw [Object.sender, hkind] at hkey
          cases key with
          | cds => exact absurd (by decide) hkey
          | lds => exact absurd (by decide) hkey
          | sds => rfl
  | caCertificate c =>
      rw [← Except.ok.inj hwrite]
      cases key with
      | cds => rfl
      | lds => rfl
      | sds => exact absurd (by simp [Object.sender, receivers]) hkey
  | preferences p =>
      rw [← Except.ok.inj hwrite]
      cases key with
      | cds =>
          exact congrArg DiscoveryResponse.clusters
            (cdsResources_congr_preferences env db.toTables p hkeeps)
      | lds =>
          exact congrArg DiscoveryResponse.listeners
            (ldsResources_congr_preferences env db.toTables p hkeeps)
      | sds => rfl

/-- A key that no receiver drops is not among the keys of any sender. -/
theorem notMem_receivers {senders : List Sender} {key : XdsKey}
    (h : key ∉ senders.flatMap receivers) (sender : Sender) (hs : sender ∈ senders) :
    key ∉ receivers sender :=
  fun hkey => h (List.mem_flatMap.mpr ⟨sender, hs, hkey⟩)

/-- Deleting clusters that are not there changes nothing. -/
theorem eraseClusters_of_forall {t : Tables} {p : ServiceCluster ℕ → Bool}
    (h : ∀ c ∈ t.serviceClusters, p c = false) : t.eraseClusters p = t := by
  have hgone : t.serviceClusters.filter p = [] := by
    rw [List.filter_eq_nil_iff]
    intro c hc
    rw [h c hc]
    decide
  unfold Tables.eraseClusters
  rw [hgone, Table.erase_of_forall h]
  dsimp only
  rw [Table.erase_of_forall (by simp), Table.erase_of_forall (by simp)]

/-- If the cluster and listener keys stay cached, no cluster was deleted. -/
theorem forall_of_clusterDeletedSenders {t : Tables} {p : ServiceCluster ℕ → Bool} {key : XdsKey}
    (hkey : key ∈ receivers .serviceCluster)
    (h : key ∉ (t.clusterDeletedSenders p).flatMap receivers) :
    ∀ c ∈ t.serviceClusters, p c = false := by
  intro c hc
  by_contra hp
  have hsender : Sender.serviceCluster ∈ t.clusterDeletedSenders p := by
    unfold Tables.clusterDeletedSenders
    apply List.mem_append_left
    apply List.mem_append_left
    refine List.mem_map.mpr ⟨c.pk, ?_, rfl⟩
    exact List.mem_map.mpr ⟨c, List.mem_filter.mpr ⟨hc, by simpa using hp⟩, rfl⟩
  exact notMem_receivers h _ hsender hkey

/-- A delete leaves the responses cached that it does not drop. -/
theorem rebuild_remove {env : XdsEnv} (db : Database) {target : Target} {key : XdsKey}
    (hkey : key ∉ (db.deletedSenders target).flatMap receivers) :
    rebuild env (db.remove target) key = rebuild env db.toTables key := by
  cases target with
  | serviceType pk =>
      have hclusters : key ∉
          (db.clusterDeletedSenders fun c => c.serviceType = pk).flatMap receivers := by
        intro hmem
        obtain ⟨sender, hsender, hk⟩ := List.mem_flatMap.mp hmem
        exact notMem_receivers hkey sender (List.mem_append_right _ hsender) hk
      -- Unless a cluster goes with it, a service type that is deleted had no cluster.
      have hresolve : (∀ c ∈ db.serviceClusters, decide (c.serviceType = pk) = false) →
          ∀ (view : ServiceCluster ServiceType → ServiceCluster ServiceType),
            ∀ c ∈ db.serviceClusters,
              ({ db.toTables with
                  serviceTypes :=
                    Table.erase (fun s => s.pk = pk) db.serviceTypes }.resolveCluster c).map view =
                (db.resolveCluster c).map view := by
        intro hnone view c hc
        rw [Tables.resolveCluster, Tables.resolveCluster, Table.find?_erase]
        intro s hs
        have hne := of_decide_eq_false (hnone c hc)
        rw [← of_decide_eq_true hs] at hne
        exact decide_eq_false hne
      cases key with
      | cds =>
          have hnone := forall_of_clusterDeletedSenders (by decide) hclusters
          refine congrArg DiscoveryResponse.clusters ?_
          rw [Tables.remove, eraseClusters_of_forall hnone]
          exact cdsResources_congr_serviceTypes env db.toTables _ (hresolve hnone _)
      | lds =>
          have hnone := forall_of_clusterDeletedSenders (by decide) hclusters
          refine congrArg DiscoveryResponse.listeners ?_
          rw [Tables.remove, eraseClusters_of_forall hnone]
          exact ldsResources_congr_serviceTypes (hresolve hnone _) env
      | sds => rfl
  | serviceCluster pk =>
      cases key with
      | cds =>
          rw [Tables.remove, eraseClusters_of_forall
            (forall_of_clusterDeletedSenders (by decide) hkey)]
      | lds =>
          rw [Tables.remove, eraseClusters_of_forall
            (forall_of_clusterDeletedSenders (by decide) hkey)]
      | sds => rfl
  | serviceNode pk =>
      cases key with
      | cds =>
          have hnone : ∀ n ∈ db.serviceNodes, decide (n.pk = pk) = false := by
            intro n hn
            by_contra hp
            refine notMem_receivers hkey .serviceNode (List.mem_map.mpr ⟨n, ?_, rfl⟩) (by decide)
            exact List.mem_filter.mpr ⟨hn, by simpa using hp⟩
          rw [Tables.remove, Table.erase_of_forall hnone]
      | lds => rfl
      | sds => rfl
  | httpPort pk =>
      have hroutes : key ≠ .sds → ∀ r ∈ db.routes, decide (r.httpPort = pk) = false := by
        intro hsds r hr
        by_contra hp
        refine notMem_receivers hkey .route ?_ (by revert hsds; cases key <;> decide)
        apply List.mem_append_right
        refine List.mem_flatMap.mpr ⟨r, List.mem_filter.mpr ⟨hr, by simpa using hp⟩, ?_⟩
        simp [Route.deletedSenders]
      cases key with
      | cds =>
          rw [Tables.remove, Table.erase_of_forall (hroutes (by decide))]
          rfl
      | lds =>
          have hports : ∀ p ∈ db.httpPorts, decide (p.pk = pk) = false := by
            intro p hp
            by_contra hpk
            refine notMem_receivers hkey .httpPort ?_ (by decide)
            apply List.mem_append_left
            refine List.mem_map.mpr ⟨p, List.mem_filter.mpr ⟨hp, by simpa using hpk⟩, rfl⟩
          rw [Tables.remove, Table.erase_of_forall (hroutes (by decide)),
            Table.erase_of_forall hports]
      | sds => rfl
  | route pk =>
      have hroutes : key ≠ .sds → ∀ r ∈ db.routes, decide (r.pk = pk) = false := by
        intro hsds r hr
        by_contra hp
        refine notMem_receivers hkey .route ?_ (by revert hsds; cases key <;> decide)
        refine List.mem_flatMap.mpr ⟨r, List.mem_filter.mpr ⟨hr, by simpa using hp⟩, ?_⟩
        simp [Route.deletedSenders]
      cases key with
      | cds => rw [Tables.remove, Table.erase_of_forall (hroutes (by decide))]
      | lds => rw [Tables.remove, Table.erase_of_forall (hroutes (by decide))]
      | sds => rfl
  | caCertificate pk =>
      cases key with
      | cds => rfl
      | lds => rfl
      | sds =>
          have hnone : ∀ c ∈ db.caCertificates, decide (c.pk = pk) = false := by
            intro c hc
            by_contra hp
            refine notMem_receivers hkey .caCertificate (List.mem_map.mpr ⟨c, ?_, rfl⟩) (by decide)
            exact List.mem_filter.mpr ⟨hc, by simpa using hp⟩
          rw [Tables.remove, Table.erase_of_forall hnone]

/-! ## Runs without overlap -/

/-- The database and the discovery cache. -/
structure XdsState where
  db : Database
  cache : XdsKey → Option DiscoveryResponse

/-- What happens to them, one at a time. -/
inductive XdsEvent where
  /-- A create or update that is committed, or that raises. -/
  | save (obj : Object)
  | delete (target : Target)
  /-- Envoy polls one of the three views. -/
  | poll (key : XdsKey)
  /-- A cache entry times out. -/
  | expire (key : XdsKey)
  deriving DecidableEq, Repr

namespace XdsState

/-- The response a view serves: the cached one if there is one. -/
def serve (env : XdsEnv) (s : XdsState) (key : XdsKey) : DiscoveryResponse :=
  (s.cache key).getD (rebuild env s.db.toTables key)

/-- A transaction: on commit the keys its signals name are dropped, on failure nothing happens. -/
def transact (s : XdsState) (commit : Database → Option (Database × List XdsKey)) : XdsState :=
  match commit s.db with
  | some (db', keys) => ⟨db', CacheAside.drop keys s.cache⟩
  | none => s

/-- The effect of an event. -/
def step (env : XdsEnv) (serviceId : String) (s : XdsState) : XdsEvent → XdsState
  | .save obj => s.transact (saveCommit serviceId obj)
  | .delete target => s.transact (deleteCommit target)
  | .poll key =>
    match s.cache key with
    | some _ => s
    | none =>
      { s with
        cache := CacheAside.fill (xdsSystem env) key (rebuild env s.db.toTables key) s.cache }
  | .expire key => { s with cache := CacheAside.drop [key] s.cache }

/-- The effect of a sequence of events. -/
def run (env : XdsEnv) (serviceId : String) (s : XdsState) (events : List XdsEvent) : XdsState :=
  events.foldl (step env serviceId) s

/-- Every cached response is the one rebuilt from the database. -/
def Coherent (env : XdsEnv) (s : XdsState) : Prop :=
  CacheAside.Coherent (xdsSystem env) s.db s.cache

/-- A save keeps what the cached responses read. -/
def Harmless (s : XdsState) : XdsEvent → Prop
  | .save obj => ∀ key, (s.cache key).isSome → obj.Keeps s.db.toTables key
  | _ => True

/-- Every save of a run keeps what the responses cached at that moment read. -/
def HarmlessRun (env : XdsEnv) (serviceId : String) : XdsState → List XdsEvent → Prop
  | _, [] => True
  | s, e :: events =>
    s.Harmless e ∧ HarmlessRun env serviceId (s.step env serviceId e) events

variable {env : XdsEnv} {serviceId : String} {s : XdsState}

/-- A transaction keeps the cache coherent if it keeps every response it leaves cached. -/
theorem Coherent.transact (h : s.Coherent env)
    {commit : Database → Option (Database × List XdsKey)}
    (hsame : ∀ db' keys, commit s.db = some (db', keys) → ∀ key ∉ keys,
      (s.cache key).isSome → rebuild env db'.toTables key = rebuild env s.db.toTables key) :
    (s.transact commit).Coherent env := by
  unfold XdsState.transact
  cases hcommit : commit s.db with
  | none => exact h
  | some out =>
      obtain ⟨db', keys⟩ := out
      exact CacheAside.Coherent.commit h (hsame db' keys hcommit)

/-- A harmless event keeps the cache coherent. -/
theorem Coherent.step (h : s.Coherent env) {e : XdsEvent} (he : s.Harmless e) :
    (s.step env serviceId e).Coherent env := by
  cases e with
  | save obj =>
      apply h.transact
      intro db' keys hcommit key hkey hcached
      unfold saveCommit at hcommit
      split at hcommit
      · rename_i hsave
        cases hcommit
        exact rebuild_save hsave hkey (he key hcached)
      · cases hcommit
  | delete target =>
      apply h.transact
      intro db' keys hcommit key hkey _
      unfold deleteCommit at hcommit
      split at hcommit
      · rename_i hdelete
        cases hcommit
        rw [Database.toTables_of_commit hdelete]
        exact rebuild_remove s.db hkey
      · cases hcommit
  | poll key =>
      cases hcached : s.cache key with
      | some response =>
          rw [XdsState.step, hcached]
          exact h
      | none =>
          rw [XdsState.step, hcached]
          exact CacheAside.Coherent.fill h
  | expire key =>
      -- An expired entry is dropped, and nothing else changes.
      exact CacheAside.Coherent.commit h fun _ _ _ => rfl

/-- A coherent cache serves what would be rebuilt. -/
theorem Coherent.serve_eq (h : s.Coherent env) (key : XdsKey) :
    s.serve env key = rebuild env s.db.toTables key := by
  unfold serve
  cases hcached : s.cache key with
  | none => rfl
  | some response => exact h key response hcached

/-- The cache stays coherent along a harmless run. -/
theorem Coherent.run (h : s.Coherent env) {events : List XdsEvent}
    (he : HarmlessRun env serviceId s events) : (s.run env serviceId events).Coherent env := by
  induction events generalizing s with
  | nil => exact h
  | cons e events ih => exact ih (h.step he.1) he.2

/-- A prefix of a harmless run is harmless. -/
theorem HarmlessRun.of_append {pre post : List XdsEvent}
    (h : HarmlessRun env serviceId s (pre ++ post)) : HarmlessRun env serviceId s pre := by
  induction pre generalizing s with
  | nil => trivial
  | cons e pre ih => exact ⟨h.1, ih h.2⟩

end XdsState

/-- Along every run from an empty cache whose saves keep what the cached responses read, every
response that is served is the one rebuilt from the database at that moment. -/
theorem served_eq_rebuild_of_harmless (env : XdsEnv) (serviceId : String) (db : Database)
    (events : List XdsEvent)
    (h : XdsState.HarmlessRun env serviceId ⟨db, fun _ => none⟩ events) :
    ∀ pre, pre <+: events → ∀ key,
      let s := XdsState.run env serviceId ⟨db, fun _ => none⟩ pre
      s.serve env key = rebuild env s.db.toTables key := by
  rintro pre ⟨post, rfl⟩ key
  have hstart : XdsState.Coherent env ⟨db, fun _ => none⟩ := CacheAside.coherent_empty _ _
  exact (hstart.run h.of_append).serve_eq key

/-- The controller's service type with another ping URL and another service index. -/
def controllerType (pingUrl serviceIndexPath : Option String) : ServiceType :=
  ⟨1, "controller", pingUrl, some "/login/", some "/logout/", serviceIndexPath⟩

/-- A poll, an update of a field that no builder reads, a new node, and a poll. -/
def harmlessEvents : List XdsEvent :=
  [.poll .cds,
   .save (.serviceType (controllerType (some "/api/v2/ping/") (some "/v2/service-index/"))),
   .poll .lds,
   .save (.serviceNode { pk := 2, name := "node 2", serviceCluster := 1, address := "10.0.0.2" }),
   .poll .cds]

/-- The run of `harmlessEvents` serves fresh clusters at its end, from the cache. -/
theorem served_eq_rebuild_harmlessEvents :
    let s := XdsState.run plainHost "gw" ⟨websocketDatabase true, fun _ => none⟩ harmlessEvents
    (s.cache .cds).isSome = true ∧
      s.serve plainHost .cds = rebuild plainHost s.db.toTables .cds := by
  refine ⟨by decide, ?_⟩
  refine served_eq_rebuild_of_harmless plainHost "gw" (websocketDatabase true) harmlessEvents ?_
    harmlessEvents List.prefix_rfl .cds
  refine ⟨trivial, ?_, trivial, ?_, trivial, trivial⟩
  · intro key _
    cases key with
    | cds => unfold Object.Keeps; decide
    | lds => unfold Object.Keeps; decide
    | sds => trivial
  · intro key _
    cases key <;> trivial

/-- A poll fills the cluster cache, then the ping URL of the controller's service type changes:
the next poll is served the old URL. -/
theorem served_ne_rebuild_of_pingUrl :
    let s := XdsState.run plainHost "gw" ⟨websocketDatabase true, fun _ => none⟩
      [.poll .cds, .save (.serviceType (controllerType (some "/ping/") none))]
    s.serve plainHost .cds ≠ rebuild plainHost s.db.toTables .cds := by
  decide

end AapGateway
