import AapGateway.Models.Database

/-!
# Cluster configuration

The Envoy cluster a route compiles to: the endpoints of the nodes its tags select, outlier
detection, health checks and the upstream TLS settings. Cluster discovery hands the builder the
largest request timeout among the cluster's routes, computed for all clusters in one query; a
direct call computes it from the cluster's routes.

The type URLs of the protobuf messages are fixed per record and are not repeated.

## Main results

* `getXdsClusterConfig_stash`: the value cluster discovery computes in advance is the one a
  direct call computes;
* `getXdsClusterConfig_eq_iff`: two routes of one cluster and port, with one name, have the same
  configuration exactly when they select the same endpoints and agree on TLS.
-/

namespace AapGateway

/-- What the configuration builders ask the host and the settings file. -/
structure XdsEnv where
  /-- `classify_address(a).ipv6_bracketed` of an IPv6 address, and nothing for any other. -/
  ipv6Bracketed : String → Option String
  /-- `is_ipv6_enabled()`. -/
  isIpv6Enabled : Bool
  /-- `default_backend()._fips_enabled`, when the backend has the attribute. -/
  fipsEnabled : Option Bool
  gatewayPathRewriteScriptFile : String
  grpcServerAuthServiceTimeout : String
  grpcServerMaxReceiveMessageLength : ℤ
  envoyPerConnectionBufferLimitBytes : ℕ
  xdsXffNumTrustedHops : ℕ
  gatewayCertFile : String
  gatewayKeyFile : String
  sdsClusterNames : List String
  sdsRefreshDelay : String

/-- `health_check_config` of an endpoint. -/
structure HealthCheckConfig where
  hostname : String
  portValue : ℤ
  deriving DecidableEq, Repr

/-- One entry of `lb_endpoints`. -/
structure LbEndpoint where
  address : String
  portValue : ℤ
  healthCheckConfig : Option HealthCheckConfig
  deriving DecidableEq, Repr

/-- `outlier_detection`. -/
structure OutlierDetection where
  consecutive5xx : ℕ
  interval : String
  baseEjectionTime : String
  maxEjectionPercent : ℕ
  splitExternalLocalOriginErrors : Bool
  consecutiveLocalOriginFailure : ℕ
  enforcingConsecutiveLocalOriginFailure : Option ℕ
  deriving DecidableEq, Repr

/-- An entry of `health_checks`. -/
structure HealthCheck where
  timeout : String
  interval : String
  unhealthyThreshold : ℕ
  healthyThreshold : ℕ
  /-- `http_health_check.path`. -/
  path : Option String
  deriving DecidableEq, Repr

/-- The upstream TLS transport socket. -/
structure UpstreamTls where
  tlsMaximumProtocolVersion : String := "TLSv1_3"
  tlsMinimumProtocolVersion : String := "TLSv1_2"
  sni : Option String
  deriving DecidableEq, Repr

/-- An Envoy cluster. -/
structure ClusterConfig where
  name : String
  type : String
  lbPolicy : String := "LEAST_REQUEST"
  dnsLookupFamily : String
  /-- `load_assignment.cluster_name`. -/
  loadAssignmentClusterName : String
  /-- `load_assignment.endpoints[0].lb_endpoints`. -/
  lbEndpoints : List LbEndpoint
  healthyPanicThreshold : ℕ
  outlierDetection : Option OutlierDetection
  healthChecks : List HealthCheck
  transportSocket : Option UpstreamTls
  deriving DecidableEq, Repr

/-- The largest request timeout set on a route of a cluster. -/
def Tables.maxRouteTimeout (t : Tables) (clusterPk : ℕ) : Option ℕ :=
  ((t.routesOf clusterPk).filterMap Route.requestTimeoutSeconds).max?

namespace ServiceCluster

/-- `ServiceCluster.get_effective_health_check_timeout_seconds`. `stash` is the attribute
`_max_route_timeout`, absent unless a caller computed it in advance. -/
def getEffectiveHealthCheckTimeoutSeconds {T : Type} (t : Tables) (c : ServiceCluster T)
    (stash : Option (Option ℕ)) : ℤ :=
  let maxRouteTimeout := (stash.getD (t.maxRouteTimeout c.pk)).getD 0
  max (max (c.healthCheckTimeoutSeconds : ℤ) maxRouteTimeout) t.preferences.requestTimeout

/-- `ServiceCluster.get_effective_health_check_interval_seconds`. -/
def getEffectiveHealthCheckIntervalSeconds {T : Type} (c : ServiceCluster T)
    (effectiveTimeout : ℤ) : ℤ :=
  max (c.healthCheckIntervalSeconds : ℤ) effectiveTimeout

end ServiceCluster

namespace Route

variable {C : Type}

/-- A node receives the traffic of a route: the route has no tags, or they share one. -/
def selects (r : Route C) (node : ServiceNode) : Bool :=
  r.nodeTags = "" || r.nodeTagsList.any fun tag => node.tagsList.contains tag

/-- `Route._get_xds_outlier_detection_config`. -/
def getXdsOutlierDetectionConfig (r : RouteInstance) : OutlierDetection where
  consecutive5xx := r.serviceCluster.outlierDetectionConsecutive5xx
  interval := r.serviceCluster.outlierDetectionIntervalSeconds.repr ++ "s"
  baseEjectionTime := r.serviceCluster.outlierDetectionBaseEjectionTimeSeconds.repr ++ "s"
  maxEjectionPercent := r.serviceCluster.outlierDetectionMaxEjectionPercent
  splitExternalLocalOriginErrors :=
    r.serviceCluster.outlierDetectionSplitExternalLocalOriginErrors
  consecutiveLocalOriginFailure := r.serviceCluster.outlierDetectionConsecutiveLocalOriginFailure
  -- Envoy reads an omitted value as 5, so zero is enforced explicitly.
  enforcingConsecutiveLocalOriginFailure :=
    if r.serviceCluster.outlierDetectionConsecutiveLocalOriginFailure = 0 then some 0 else none

/-- The endpoint of a node. -/
def endpoint (env : XdsEnv) (r : RouteInstance) (node : ServiceNode) : LbEndpoint where
  address := node.address
  portValue := r.servicePort
  healthCheckConfig :=
    if r.serviceCluster.healthChecksEnabled then
      some ⟨(env.ipv6Bracketed node.address).getD node.address, r.servicePort⟩
    else none

/-- The endpoints of the nodes a route selects. -/
def endpoints (env : XdsEnv) (t : Tables) (r : RouteInstance) : List LbEndpoint :=
  ((t.nodesOf r.serviceCluster.pk).filter r.selects).map (r.endpoint env)

/-- The health checks of a route's cluster. -/
def healthChecks (t : Tables) (r : RouteInstance) (stash : Option (Option ℕ)) :
    List HealthCheck :=
  if r.serviceCluster.healthChecksEnabled then
    let timeout := r.serviceCluster.getEffectiveHealthCheckTimeoutSeconds t stash
    let interval := r.serviceCluster.getEffectiveHealthCheckIntervalSeconds timeout
    [{ timeout := timeout.repr ++ "s"
       interval := interval.repr ++ "s"
       unhealthyThreshold := r.serviceCluster.healthCheckUnhealthyThreshold
       healthyThreshold := r.serviceCluster.healthCheckHealthyThreshold
       path := r.serviceCluster.serviceType.pingUrl }]
  else []

/-- The upstream TLS settings of a route. -/
def upstreamTls (r : RouteInstance) : Option UpstreamTls :=
  if r.isServiceHttps then
    some { sni := if r.serviceCluster.upstreamHostname = "" then none
                  else some r.serviceCluster.upstreamHostname }
  else none

/-- `Route.get_xds_cluster_config`. -/
def getXdsClusterConfig (env : XdsEnv) (t : Tables) (r : RouteInstance)
    (stash : Option (Option ℕ)) : ClusterConfig where
  name := r.envoyClusterName
  type := r.serviceCluster.dnsDiscoveryType
  dnsLookupFamily := r.serviceCluster.dnsLookupFamily
  loadAssignmentClusterName := r.envoyClusterName
  lbEndpoints := r.endpoints env t
  healthyPanicThreshold := r.serviceCluster.healthyPanicThreshold
  outlierDetection :=
    if r.serviceCluster.outlierDetectionEnabled then some r.getXdsOutlierDetectionConfig else none
  healthChecks := r.healthChecks t stash
  transportSocket := r.upstreamTls

variable {env : XdsEnv} {t : Tables}

/-- The timeout cluster discovery computes in advance is the one a direct call computes. -/
theorem getXdsClusterConfig_stash (r : RouteInstance) :
    r.getXdsClusterConfig env t (some (t.maxRouteTimeout r.serviceCluster.pk)) =
      r.getXdsClusterConfig env t none := rfl

/-- Two routes use TLS alike exactly when their settings are the same. -/
theorem upstreamTls_eq_iff {r₁ r₂ : RouteInstance} (hc : r₁.serviceCluster = r₂.serviceCluster) :
    r₁.upstreamTls = r₂.upstreamTls ↔ r₁.isServiceHttps = r₂.isServiceHttps := by
  unfold upstreamTls
  rw [hc]
  cases r₁.isServiceHttps <;> cases r₂.isServiceHttps <;> simp

/-- Routes of one cluster, port and name differ only in their endpoints and in TLS. -/
theorem getXdsClusterConfig_eq_iff {r₁ r₂ : RouteInstance}
    (hc : r₁.serviceCluster = r₂.serviceCluster)
    (hname : r₁.envoyClusterName = r₂.envoyClusterName) :
    r₁.getXdsClusterConfig env t none = r₂.getXdsClusterConfig env t none ↔
      r₁.endpoints env t = r₂.endpoints env t ∧ r₁.isServiceHttps = r₂.isServiceHttps := by
  rw [← upstreamTls_eq_iff hc]
  have hhealth : r₁.healthChecks t none = r₂.healthChecks t none := by
    unfold healthChecks
    rw [hc]
  have houtlier : r₁.getXdsOutlierDetectionConfig = r₂.getXdsOutlierDetectionConfig := by
    unfold getXdsOutlierDetectionConfig
    rw [hc]
  unfold getXdsClusterConfig
  rw [hc, hname, hhealth, houtlier]
  simp

/-- Routes of one cluster and port have the same endpoints exactly when they select the same
nodes of it, provided one of them selects at least what the other does. -/
theorem endpoints_eq_iff_of_imp {r₁ r₂ : RouteInstance}
    (hc : r₁.serviceCluster = r₂.serviceCluster) (hport : r₁.servicePort = r₂.servicePort)
    (himp : ∀ n ∈ t.nodesOf r₁.serviceCluster.pk, r₂.selects n = true → r₁.selects n = true) :
    r₁.endpoints env t = r₂.endpoints env t ↔
      ∀ n ∈ t.nodesOf r₁.serviceCluster.pk, r₁.selects n = true → r₂.selects n = true := by
  have hendpoint : r₁.endpoint env = r₂.endpoint env := by
    funext n
    unfold endpoint
    rw [hc, hport]
  unfold endpoints
  rw [hendpoint, ← hc]
  constructor
  · intro heq n hn hsel
    -- The larger selection has as many nodes as the smaller one, so nothing was dropped.
    have hlength := congrArg List.length heq
    rw [List.length_map, List.length_map] at hlength
    have hfilter : (t.nodesOf r₁.serviceCluster.pk).filter r₂.selects =
        ((t.nodesOf r₁.serviceCluster.pk).filter r₁.selects).filter r₂.selects := by
      rw [List.filter_filter]
      apply List.filter_congr
      intro m hm
      by_cases h₂ : r₂.selects m = true
      · rw [h₂, himp m hm h₂]
        rfl
      · simp [h₂]
    rw [hfilter] at hlength
    have hall := List.filter_eq_self.mp
      ((List.filter_sublist).eq_of_length hlength.symm)
    exact hall n (List.mem_filter.mpr ⟨hn, hsel⟩)
  · intro hsub
    congr 1
    apply List.filter_congr
    intro n hn
    exact Bool.eq_iff_iff.mpr ⟨hsub n hn, himp n hn⟩

end Route

end AapGateway
