import AapGateway.Xds.Discovery

/-!
# Cluster names and deduplication

Cluster discovery emits one cluster for each `envoy_cluster_name`, so the name has to identify
the configuration. `Route.save` builds it from the cluster's primary key, the service port and
the sorted node tags; the configuration also reads `is_service_https`, and a route without tags
takes the name of a route whose only tag is `*`.

## Main results

* `clusterName_eq_iff`: when two routes have the same name;
* `Reachable.canonicalNames`: in a reachable database every stored name is the one `Route.save`
  computes from the row;
* `dedupSound_iff`: deduplication is sound exactly when routes that share a name agree on TLS and
  on the nodes they select.
-/

namespace AapGateway

namespace Route

variable {C : Type}

/-- Two sorted tag lists are equal exactly when the tags are the same up to order. -/
theorem sort_nodeTagsList_eq_iff {r₁ r₂ : Route C} :
    r₁.nodeTagsList.insertionSort (· ≤ ·) = r₂.nodeTagsList.insertionSort (· ≤ ·) ↔
      r₁.nodeTagsList.Perm r₂.nodeTagsList := by
  constructor
  · intro h
    have h₁ := List.perm_insertionSort (· ≤ ·) r₁.nodeTagsList
    rw [h] at h₁
    exact h₁.symm.trans (List.perm_insertionSort (· ≤ ·) r₂.nodeTagsList)
  · intro h
    refine List.Perm.eq_of_pairwise' (r := (· ≤ ·)) (List.pairwise_insertionSort _ _)
      (List.pairwise_insertionSort _ _) ?_
    exact (List.perm_insertionSort _ _).trans (h.trans (List.perm_insertionSort _ _).symm)

/-- The sorted tags of a route contain no comma. -/
theorem comma_notMem_sort {r : Route C} {tag : String}
    (h : tag ∈ r.nodeTagsList.insertionSort (· ≤ ·)) : ',' ∉ tag.toList :=
  comma_notMem_of_mem_nodeTagsList ((List.perm_insertionSort _ _).mem_iff.mp h)

/-- A route without tags reads `*`. -/
theorem nodesKey_of_untagged {r : Route C} (h : r.nodeTags = "") : r.nodesKey = "*" := by
  unfold nodesKey
  rw [nodeTagsList_eq_nil_iff.mpr h]
  rfl

/-- A route with tags has sorted tags. -/
theorem sort_nodeTagsList_ne_nil {r : Route C} (h : r.nodeTags ≠ "") :
    r.nodeTagsList.insertionSort (· ≤ ·) ≠ [] := by
  intro hnil
  have hlength := congrArg List.length hnil
  rw [List.length_insertionSort, List.length_nil, List.length_eq_zero_iff] at hlength
  exact h (nodeTagsList_eq_nil_iff.mp hlength)

/-- A route with tags reads as its sorted tags. -/
theorem nodesKey_of_tagged {r : Route C} (h : r.nodeTags ≠ "") :
    r.nodesKey = Text.join ',' (r.nodeTagsList.insertionSort (· ≤ ·)) := by
  unfold nodesKey
  rw [if_neg (fun hlength => sort_nodeTagsList_ne_nil h (List.length_eq_zero_iff.mp hlength))]

/-- A tagged route reads `*` exactly when `*` is its only tag. -/
theorem nodesKey_eq_star_iff {r : Route C} (h : r.nodeTags ≠ "") :
    r.nodesKey = "*" ↔ r.nodeTagsList = ["*"] := by
  rw [nodesKey_of_tagged h]
  constructor
  · intro hjoin
    rw [← Text.join_singleton ',' "*"] at hjoin
    have hsorted := Text.join_injective (fun _ => comma_notMem_sort) (by simp)
      (sort_nodeTagsList_ne_nil h) (by simp) hjoin
    have hperm := (List.perm_insertionSort (· ≤ ·) r.nodeTagsList).symm
    rw [hsorted] at hperm
    exact List.perm_singleton.mp hperm
  · intro htags
    rw [htags]
    exact Text.join_singleton ',' "*"

/-- Two routes read the same in the node part of their names exactly when they have the same
tags up to order, or one has no tags and `*` is the only tag of the other. -/
theorem nodesKey_eq_iff {r₁ r₂ : Route C} :
    r₁.nodesKey = r₂.nodesKey ↔
      r₁.nodeTagsList.Perm r₂.nodeTagsList ∨
        (r₁.nodeTags = "" ∧ r₂.nodeTagsList = ["*"]) ∨
        (r₂.nodeTags = "" ∧ r₁.nodeTagsList = ["*"]) := by
  -- A route without tags reads `*`, which a route with tags reads only for the one tag `*`.
  by_cases h₁ : r₁.nodeTags = "" <;> by_cases h₂ : r₂.nodeTags = ""
  · have hnil₁ := nodeTagsList_eq_nil_iff.mpr h₁
    have hnil₂ := nodeTagsList_eq_nil_iff.mpr h₂
    simp [nodesKey_of_untagged, h₁, h₂, hnil₁, hnil₂]
  · have hnil : r₁.nodeTagsList = [] := nodeTagsList_eq_nil_iff.mpr h₁
    rw [nodesKey_of_untagged h₁, eq_comm, nodesKey_eq_star_iff h₂, hnil, List.nil_perm,
      nodeTagsList_eq_nil_iff]
    simp [h₁, h₂]
  · have hnil : r₂.nodeTagsList = [] := nodeTagsList_eq_nil_iff.mpr h₂
    rw [nodesKey_of_untagged h₂, nodesKey_eq_star_iff h₁, hnil, List.perm_nil,
      nodeTagsList_eq_nil_iff]
    simp [h₁, h₂]
  · rw [nodesKey_of_tagged h₁, nodesKey_of_tagged h₂]
    constructor
    · intro hjoin
      left
      rw [← sort_nodeTagsList_eq_iff]
      exact Text.join_injective (fun _ => comma_notMem_sort) (fun _ => comma_notMem_sort)
        (sort_nodeTagsList_ne_nil h₁) (sort_nodeTagsList_ne_nil h₂) hjoin
    · rintro (hperm | ⟨hr, -⟩ | ⟨hr, -⟩)
      · rw [sort_nodeTagsList_eq_iff.mpr hperm]
      · exact absurd hr h₁
      · exact absurd hr h₂

/-- A name determines the cluster, the port and the node part it was built from. -/
theorem clusterName_eq_iff {r₁ r₂ : Route ℕ} :
    r₁.clusterName = r₂.clusterName ↔
      r₁.serviceCluster = r₂.serviceCluster ∧ r₁.servicePort = r₂.servicePort ∧
        r₁.nodesKey = r₂.nodesKey := by
  constructor
  · intro h
    have hchars := congrArg String.toList h
    simp only [clusterName, String.toList_append, List.append_assoc,
      List.append_cancel_left_eq] at hchars
    -- A number ends where the dash comes, so it can be read off the name.
    obtain ⟨hcluster, hrest⟩ := Text.natRepr_append_cons_inj hchars
    obtain ⟨hport, hkey⟩ := Text.intRepr_append_cons_inj hrest
    refine ⟨hcluster, hport, Text.toList_injective ?_⟩
    simpa using hkey
  · rintro ⟨hcluster, hport, hkey⟩
    rw [clusterName, clusterName, hcluster, hport, hkey]

/-- The row a route's `save` writes carries the name of that row. -/
theorem envoyClusterName_of_prepareAs {t : Tables} {r row : Route ℕ}
    (h : r.prepareAs t = .ok row) : row.envoyClusterName = row.clusterName := by
  unfold prepareAs at h
  -- Each class ends its `save` with that of `Route`, which computes the name.
  split at h
  · cases h
    rfl
  · cases hclean : r.clean t with
    | error e => rw [hclean] at h; cases h
    | ok _ =>
        rw [hclean] at h
        cases h
        rfl
  · split at h
    · cases h
    · cases h
      rfl
  · split at h
    · cases h
    · cases h
      rfl

end Route

namespace Tables

/-- Every stored name is the one `Route.save` computes from the row. -/
def CanonicalNames (t : Tables) : Prop :=
  ∀ r ∈ t.routes, r.envoyClusterName = r.clusterName

/-- A save keeps the stored names canonical. -/
theorem CanonicalNames.write {serviceId : String} {t t' : Tables} {obj : Object}
    (hcanon : t.CanonicalNames) (h : t.write serviceId obj = .ok t') : t'.CanonicalNames := by
  cases obj with
  | route r =>
      cases hrow : r.prepareAs t with
      | error e => rw [Tables.write, hrow] at h; cases h
      | ok row =>
          rw [Tables.write, hrow] at h
          cases h
          intro r' hr'
          -- The row that was written has its name from its save, and the others are the old ones.
          rcases Table.mem_upsert.mp hr' with rfl | ⟨hold, -⟩
          · exact Route.envoyClusterName_of_prepareAs hrow
          · exact hcanon r' hold
  | serviceCluster c =>
      cases hrow : c.prepare serviceId t with
      | error e => rw [Tables.write, hrow] at h; cases h
      | ok row =>
          rw [Tables.write, hrow] at h
          cases h
          exact hcanon
  | _ =>
      cases h
      exact hcanon

/-- A delete removes routes and adds none. -/
theorem mem_routes_of_mem_remove {t : Tables} {target : Target} {r : Route ℕ}
    (h : r ∈ (t.remove target).routes) : r ∈ t.routes := by
  cases target with
  | serviceType pk => exact (Table.mem_erase.mp h).1
  | serviceCluster pk => exact (Table.mem_erase.mp h).1
  | httpPort pk => exact (Table.mem_erase.mp h).1
  | route pk => exact (Table.mem_erase.mp h).1
  | serviceNode pk => exact h
  | caCertificate pk => exact h

end Tables

/-- In a reachable database the stored names are canonical. -/
theorem Database.Reachable.canonicalNames {serviceId : String} {db : Database}
    (h : Database.Reachable serviceId db) : db.CanonicalNames := by
  induction h with
  | empty =>
      intro r hr
      cases hr
  | save _ step ih => exact ih.write (write_of_save step)
  | delete _ step ih =>
      intro r hr
      rw [toTables_of_commit step] at hr
      exact ih r (Tables.mem_routes_of_mem_remove hr)

/-- Cluster discovery is sound: for every route, it emits one cluster with the route's name, and
that cluster is the route's own configuration. -/
def DedupSound (env : XdsEnv) (t : Tables) : Prop :=
  ∀ r ∈ t.routes, ∀ ri, t.resolveRoute r = some ri →
    (cdsResources env t none).filter (fun c => c.name = r.envoyClusterName) =
      [ri.getXdsClusterConfig env t none]

/-- Routes to one port of a cluster agree wherever their names do not tell them apart: equal tags
come with equal TLS, and a route without tags and one tagged only `*` agree on TLS and select
every node. -/
def SharedNamesAgree (t : Tables) : Prop :=
  ∀ r₁ ∈ t.routes, ∀ r₂ ∈ t.routes,
    r₁.serviceCluster = r₂.serviceCluster → r₁.servicePort = r₂.servicePort →
    (r₁.nodeTagsList.Perm r₂.nodeTagsList → r₁.isServiceHttps = r₂.isServiceHttps) ∧
    (r₁.nodeTags = "" → r₂.nodeTagsList = ["*"] →
      r₁.isServiceHttps = r₂.isServiceHttps ∧
        ∀ n ∈ t.nodesOf r₁.serviceCluster, "*" ∈ n.tagsList)

section Dedup

variable {env : XdsEnv} {db : Database}

/-- The emitted clusters of a name come from the rows of that name. -/
theorem filter_cdsResources (t : Tables) (name : String) :
    (cdsResources env t none).filter (fun c => c.name = name) =
      (((getQs Route.envoyClusterName t.routes none).filter
        (fun r => r.envoyClusterName = name)).filterMap t.resolveRoute).map
          fun r => r.getXdsClusterConfig env t none := by
  unfold cdsResources
  rw [List.filter_map, List.filter_filterMap, List.filterMap_filter]
  show List.map (fun r : RouteInstance => r.getXdsClusterConfig env t none) _ = _
  congr 1
  apply List.filterMap_congr
  intro r _
  -- A resolved route keeps the name of its row.
  unfold Tables.resolveRoute
  cases t.clusterByPk r.serviceCluster with
  | none => simp
  | some c =>
      by_cases hname : r.envoyClusterName = name <;>
        simp [hname, Route.getXdsClusterConfig, Route.withCluster]

/-- Every route of a database resolves to an instance with its cluster. -/
theorem exists_withCluster {r : Route ℕ} (h : r ∈ db.routes) :
    ∃ c, c.pk = r.serviceCluster ∧ db.resolveRoute r = some (r.withCluster c) := by
  obtain ⟨c, -, s, -, hpk, -, hcluster⟩ := db.exists_resolveRoute h
  refine ⟨{ c with serviceType := s }, hpk, ?_⟩
  rw [Tables.resolveRoute, hcluster]
  rfl

/-- Routes with the same foreign key resolve to the same cluster. -/
theorem resolveRoute_congr {t : Tables} {r₁ r₂ : Route ℕ} {c : ServiceCluster ServiceType}
    (hcluster : r₁.serviceCluster = r₂.serviceCluster)
    (h : t.resolveRoute r₁ = some (r₁.withCluster c)) :
    t.resolveRoute r₂ = some (r₂.withCluster c) := by
  unfold Tables.resolveRoute at h ⊢
  rw [← hcluster]
  obtain ⟨c', hc', heq⟩ := Option.map_eq_some_iff.mp h
  have hcc : c' = c := congrArg Route.serviceCluster heq
  rw [hc', hcc]
  rfl

/-- One row represents every route of its name in cluster discovery. -/
theorem exists_representative (env : XdsEnv) {r : Route ℕ} (h : r ∈ db.routes) :
    ∃ b ∈ db.routes, ∃ bi, db.resolveRoute b = some bi ∧
      b.envoyClusterName = r.envoyClusterName ∧
      (cdsResources env db.toTables none).filter (fun c => c.name = r.envoyClusterName) =
        [bi.getXdsClusterConfig env db.toTables none] := by
  have hsorted : r ∈ db.routes.insertionSort
      (fun a b => a.envoyClusterName ≤ b.envoyClusterName) :=
    (List.perm_insertionSort _ _).mem_iff.mpr h
  -- `distinct` keeps one row of the name.
  obtain ⟨b, hb, hname, hfilter⟩ :=
    Table.exists_filter_distinctOn Route.envoyClusterName hsorted
  have hbmem : b ∈ db.routes := (List.perm_insertionSort _ _).mem_iff.mp hb
  obtain ⟨c, -, hresolve⟩ := exists_withCluster hbmem
  refine ⟨b, hbmem, _, hresolve, hname, ?_⟩
  rw [filter_cdsResources]
  unfold getQs
  rw [hfilter, List.filterMap_cons, hresolve]
  rfl

/-- Deduplication is sound exactly when routes of one name have one configuration. -/
theorem dedupSound_iff_pairwise :
    DedupSound env db.toTables ↔
      ∀ r₁ ∈ db.routes, ∀ r₂ ∈ db.routes, r₁.envoyClusterName = r₂.envoyClusterName →
        ∀ i₁ i₂, db.resolveRoute r₁ = some i₁ → db.resolveRoute r₂ = some i₂ →
          i₁.getXdsClusterConfig env db.toTables none =
            i₂.getXdsClusterConfig env db.toTables none := by
  constructor
  · intro hsound r₁ hr₁ r₂ hr₂ hname i₁ i₂ hi₁ hi₂
    have h₁ := hsound r₁ hr₁ i₁ hi₁
    have h₂ := hsound r₂ hr₂ i₂ hi₂
    rw [hname, h₂] at h₁
    exact (List.singleton_inj.mp h₁).symm
  · intro hpair r hr ri hri
    obtain ⟨b, hb, bi, hbi, hname, hfilter⟩ := exists_representative env hr
    rw [hfilter, hpair b hb r hr hname bi ri hbi hri]

/-- Routes with the same tags select the same nodes. -/
theorem Route.selects_of_perm {C : Type} {r₁ r₂ : Route C}
    (h : r₁.nodeTagsList.Perm r₂.nodeTagsList) (n : ServiceNode) :
    r₁.selects n = r₂.selects n := by
  have hempty : r₁.nodeTags = "" ↔ r₂.nodeTags = "" := by
    rw [← nodeTagsList_eq_nil_iff, ← nodeTagsList_eq_nil_iff]
    constructor
    · intro hnil
      rw [hnil] at h
      exact List.nil_perm.mp h
    · intro hnil
      rw [hnil] at h
      exact List.perm_nil.mp h
  have hany : r₁.nodeTagsList.any (fun tag => n.tagsList.contains tag) =
      r₂.nodeTagsList.any fun tag => n.tagsList.contains tag := h.any_eq
  unfold selects
  rw [hany]
  simp [hempty]

/-- The configurations of two routes to one port of one cluster: with the same tags they differ
only in TLS. -/
theorem config_eq_iff_of_perm {t : Tables} {c : ServiceCluster ServiceType} {r₁ r₂ : Route ℕ}
    (hport : r₁.servicePort = r₂.servicePort)
    (hname : r₁.envoyClusterName = r₂.envoyClusterName)
    (hperm : r₁.nodeTagsList.Perm r₂.nodeTagsList) :
    (r₁.withCluster c).getXdsClusterConfig env t none =
        (r₂.withCluster c).getXdsClusterConfig env t none ↔
      r₁.isServiceHttps = r₂.isServiceHttps := by
  have hc : (r₁.withCluster c).serviceCluster = (r₂.withCluster c).serviceCluster := rfl
  have hsel : ∀ n, (r₁.withCluster c).selects n = (r₂.withCluster c).selects n :=
    Route.selects_of_perm hperm
  have hendpoints : (r₁.withCluster c).endpoints env t = (r₂.withCluster c).endpoints env t := by
    rw [Route.endpoints_eq_iff_of_imp hc hport]
    · intro n _ h
      rwa [← hsel n]
    · intro n _ h
      rwa [hsel n]
  rw [Route.getXdsClusterConfig_eq_iff hc hname]
  exact ⟨And.right, fun h => ⟨hendpoints, h⟩⟩

/-- The configurations of a route without tags and of one tagged only `*`: they differ in TLS and
in the nodes that do not carry the tag. -/
theorem config_eq_iff_of_star {t : Tables} {c : ServiceCluster ServiceType} {r₁ r₂ : Route ℕ}
    (hport : r₁.servicePort = r₂.servicePort)
    (hname : r₁.envoyClusterName = r₂.envoyClusterName)
    (huntagged : r₁.nodeTags = "") (hstar : r₂.nodeTagsList = ["*"]) :
    (r₁.withCluster c).getXdsClusterConfig env t none =
        (r₂.withCluster c).getXdsClusterConfig env t none ↔
      r₁.isServiceHttps = r₂.isServiceHttps ∧ ∀ n ∈ t.nodesOf c.pk, "*" ∈ n.tagsList := by
  have hc : (r₁.withCluster c).serviceCluster = (r₂.withCluster c).serviceCluster := rfl
  have hall : ∀ n, (r₁.withCluster c).selects n = true := by
    intro n
    simp [Route.selects, Route.withCluster, huntagged]
  have htag : ∀ n, (r₂.withCluster c).selects n = true ↔ "*" ∈ n.tagsList := by
    intro n
    have hne : (r₂.withCluster c).nodeTags ≠ "" := by
      show r₂.nodeTags ≠ ""
      rw [Ne, ← Route.nodeTagsList_eq_nil_iff, hstar]
      exact List.cons_ne_nil _ _
    have htags : (r₂.withCluster c).nodeTagsList = ["*"] := hstar
    simp [Route.selects, htags, hne]
  rw [Route.getXdsClusterConfig_eq_iff hc hname,
    Route.endpoints_eq_iff_of_imp hc hport (fun n _ _ => hall n)]
  simp only [hall, htag, forall_const]
  exact And.comm

/-- Deduplication in cluster discovery is sound in a reachable database exactly when the routes
to each port of a cluster agree on what their common name leaves out. -/
theorem dedupSound_iff {serviceId : String} (env : XdsEnv)
    (h : Database.Reachable serviceId db) :
    DedupSound env db.toTables ↔ SharedNamesAgree db.toTables := by
  rw [dedupSound_iff_pairwise]
  have hcanon := h.canonicalNames
  constructor
  · -- Routes that have to agree have one name, and so one configuration.
    intro hpair r₁ hr₁ r₂ hr₂ hcluster hport
    obtain ⟨c, hpk, hr₁c⟩ := exists_withCluster hr₁
    have hr₂c : db.resolveRoute r₂ = some (r₂.withCluster c) :=
      resolveRoute_congr hcluster hr₁c
    have hname : r₁.nodesKey = r₂.nodesKey → r₁.envoyClusterName = r₂.envoyClusterName := by
      intro hkey
      rw [hcanon r₁ hr₁, hcanon r₂ hr₂]
      exact Route.clusterName_eq_iff.mpr ⟨hcluster, hport, hkey⟩
    constructor
    · intro hperm
      have hn := hname (Route.nodesKey_eq_iff.mpr (Or.inl hperm))
      exact (config_eq_iff_of_perm hport hn hperm).mp
        (hpair r₁ hr₁ r₂ hr₂ hn _ _ hr₁c hr₂c)
    · intro huntagged hstar
      have hn := hname (Route.nodesKey_eq_iff.mpr (Or.inr (Or.inl ⟨huntagged, hstar⟩)))
      rw [← hpk]
      exact (config_eq_iff_of_star hport hn huntagged hstar).mp
        (hpair r₁ hr₁ r₂ hr₂ hn _ _ hr₁c hr₂c)
  · intro hagree r₁ hr₁ r₂ hr₂ hname i₁ i₂ hi₁ hi₂
    have hclusterName : r₁.clusterName = r₂.clusterName := by
      rw [← hcanon r₁ hr₁, ← hcanon r₂ hr₂, hname]
    obtain ⟨hcluster, hport, hkey⟩ := Route.clusterName_eq_iff.mp hclusterName
    obtain ⟨c, hpk, hr₁c⟩ := exists_withCluster hr₁
    -- Both routes resolve with the same cluster.
    rw [hr₁c] at hi₁
    rw [resolveRoute_congr hcluster hr₁c] at hi₂
    cases hi₁
    cases hi₂
    rcases Route.nodesKey_eq_iff.mp hkey with hperm | ⟨huntagged, hstar⟩ | ⟨huntagged, hstar⟩
    · apply (config_eq_iff_of_perm hport hname hperm).mpr
      exact (hagree r₁ hr₁ r₂ hr₂ hcluster hport).1 hperm
    · apply (config_eq_iff_of_star hport hname huntagged hstar).mpr
      rw [hpk]
      exact (hagree r₁ hr₁ r₂ hr₂ hcluster hport).2 huntagged hstar
    · -- The tagged route comes first; the pair is symmetric.
      symm
      apply (config_eq_iff_of_star hport.symm hname.symm huntagged hstar).mpr
      rw [hpk, hcluster]
      exact (hagree r₂ hr₂ r₁ hr₁ hcluster.symm hport.symm).2 huntagged hstar

end Dedup

/-- A host without IPv6 and with default settings. -/
def plainHost : XdsEnv where
  ipv6Bracketed _ := none
  isIpv6Enabled := false
  fipsEnabled := none
  gatewayPathRewriteScriptFile := "/etc/gateway/rewrite.lua"
  grpcServerAuthServiceTimeout := "30s"
  grpcServerMaxReceiveMessageLength := 4194304
  envoyPerConnectionBufferLimitBytes := 1048576
  xdsXffNumTrustedHops := 0
  gatewayCertFile := "/etc/gateway/gateway.cert"
  gatewayKeyFile := "/etc/gateway/gateway.key"
  sdsClusterNames := ["sds"]
  sdsRefreshDelay := "5s"

/-- A controller service with one node, and a route to its port 8080. -/
def controllerObjects : List Object :=
  [.serviceType ⟨1, "controller", some "/api/v2/ping/", some "/login/", some "/logout/", none⟩,
   .serviceCluster { pk := 1, name := "controller", serviceType := 1, serviceId := none },
   .serviceNode { pk := 1, name := "node", serviceCluster := 1, address := "10.0.0.1" },
   .httpPort { pk := 1, name := "api", number := 443, isApiPort := true },
   .route { pk := 1, name := "controller", kind := .serviceAPIRoute "controller", httpPort := 1,
            serviceCluster := 1, servicePort := 8080, isServiceHttps := true,
            servicePath := "/api/", gatewayPath := "" }]

/-- A second route to port 8080 of the controller. -/
def websocketRoute (isServiceHttps : Bool) : Route ℕ where
  pk := 2
  name := "controller websocket"
  kind := .additionalRoute
  httpPort := 1
  serviceCluster := 1
  servicePort := 8080
  isServiceHttps := isServiceHttps
  servicePath := "/websocket/"
  gatewayPath := "/websocket/"

/-- The tables of the controller service with both routes. -/
def websocketTables (isServiceHttps : Bool) : Tables where
  serviceTypes :=
    [⟨1, "controller", some "/api/v2/ping/", some "/login/", some "/logout/", none⟩]
  serviceClusters := [{ pk := 1, name := "controller", serviceType := 1, serviceId := none }]
  serviceNodes := [{ pk := 1, name := "node", serviceCluster := 1, address := "10.0.0.1" }]
  httpPorts :=
    [{ pk := 1, name := "api", number := 443, isApiPort := true,
       envoyListenerName := "port-443" }]
  routes :=
    [{ pk := 1, name := "controller", kind := .serviceAPIRoute "controller", httpPort := 1,
       serviceCluster := 1, servicePort := 8080, isServiceHttps := true,
       servicePath := "/api/", gatewayPath := "/api/controller/",
       envoyClusterName := "cluster-1-8080-nodes:*" },
     { websocketRoute isServiceHttps with envoyClusterName := "cluster-1-8080-nodes:*" }]

/-- The controller service with both routes. -/
def websocketDatabase (isServiceHttps : Bool) : Database :=
  ⟨websocketTables isServiceHttps, by cases isServiceHttps <;> decide⟩

/-- Saving the objects of the controller service and then the second route succeeds. -/
theorem reachable_websocketDatabase (isServiceHttps : Bool) :
    Database.Reachable "gw" (websocketDatabase isServiceHttps) := by
  have hsave : Database.empty.saveAll "gw"
      (controllerObjects ++ [.route (websocketRoute isServiceHttps)]) =
        .ok (websocketDatabase isServiceHttps) := by
    cases isServiceHttps <;> rfl
  exact Database.Reachable.empty.saveAll hsave

/-- With TLS on both routes, cluster discovery answers for both with their own configuration. -/
theorem dedupSound_websocketDatabase :
    DedupSound plainHost (websocketDatabase true).toTables := by
  apply (dedupSound_iff plainHost (reachable_websocketDatabase true)).mpr
  unfold SharedNamesAgree
  decide

/-- Without TLS the second route takes the name of the first but not its settings, so cluster
discovery answers for one of them with the configuration of the other. -/
theorem not_dedupSound_websocketDatabase :
    Database.Reachable "gw" (websocketDatabase false) ∧
      ¬ DedupSound plainHost (websocketDatabase false).toTables := by
  refine ⟨reachable_websocketDatabase false, ?_⟩
  intro hsound
  have hpair := dedupSound_iff_pairwise.mp hsound
  have h := hpair ((websocketTables false).routes[0]) (by decide)
    ((websocketTables false).routes[1]) (by decide) (by decide) _ _ rfl rfl
  exact absurd h (by decide)

end AapGateway
