import AapGateway.Xds.RouteConfig
import AapGateway.Xds.ClusterConfig

/-!
# Discovery responses

The listener a port compiles to, and the three discovery views of the REST control plane: the
resources each of them builds from the tables. The conversion of a response to protobuf and back
to JSON is a function of the resources and is left out.

An unordered query returns its rows in table order, and `DISTINCT ON` keeps the first row of each
group in that order. PostgreSQL leaves both open; nothing proved here depends on the choice.

## Main definitions

* `HTTPPort.getXdsListenerConfig`: the listener of a port;
* `getQs`: the query of a discovery view, one row for each value of the name column;
* `cdsResources`, `ldsResources` and `sdsResources`: what the three views build.
-/

namespace AapGateway

/-- `SDS_SECRET_CONFIG_NAME`. -/
def sdsSecretConfigName : String := "validation_context_sds"

/-- The HTTP filters of a listener, in order. -/
inductive HttpFilter where
  /-- `path_rewrite_filter`. -/
  | luaPathRewrite (scriptFile : String)
  /-- `external_auth_filter`. -/
  | extAuthz (clusterName timeout : String) (maxRequestBytes : ℤ)
      (allowPartialMessage packAsBytes : Bool) (statusOnError : String)
  /-- `http_router_filter`. -/
  | router
  deriving DecidableEq, Repr

/-- `network_manager_filter`. -/
structure ConnectionManager where
  statPrefix : String := "ingress_http"
  upgradeTypes : List String := ["websocket"]
  httpFilters : List HttpFilter
  domains : List String := ["*"]
  routes : List RouteEntry
  tracingClusterName : String := "otel_collector"
  tracingServiceName : String := "gateway-envoy"
  useRemoteAddress : Bool := true
  xffNumTrustedHops : ℕ
  deriving DecidableEq, Repr

/-- `transport_socket`. -/
structure DownstreamTls where
  requireClientCertificate : Bool := false
  certificateChain : String
  privateKey : String
  /-- The secret and the source of the validation context (`_rest_sds_config`). -/
  sdsSecretName : String
  sdsClusterNames : List String
  sdsRefreshDelay : String
  ecdhCurves : Option (List String)
  deriving DecidableEq, Repr

/-- An Envoy listener. -/
structure ListenerConfig where
  name : String
  address : String
  portValue : ℤ
  ipv4Compat : Option Bool
  filter : ConnectionManager
  perConnectionBufferLimitBytes : ℕ
  transportSocket : Option DownstreamTls
  deriving DecidableEq, Repr

/-- The secret that holds the trusted CA certificates. -/
structure SecretConfig where
  name : String
  /-- `validation_context.trusted_ca.inline_string`. -/
  trustedCa : Option String
  deriving DecidableEq, Repr

/-- The entry that lets Envoy answer `/up` itself. -/
def upRoute : RouteEntry where
  pathMatch := .pathPrefix "/up"
  action := .directResponse 200 "UP"
  extAuthz := some .disabled

/-- `redirect_route`. -/
def redirectRoute (path redirectPath : String) : RouteEntry where
  pathMatch := .path path
  action := .redirect redirectPath "MOVED_PERMANENTLY"
  extAuthz := some .disabled

/-- `transport_socket`. -/
def transportSocket (env : XdsEnv) : DownstreamTls where
  certificateChain := env.gatewayCertFile
  privateKey := env.gatewayKeyFile
  sdsSecretName := sdsSecretConfigName
  sdsClusterNames := env.sdsClusterNames
  sdsRefreshDelay := env.sdsRefreshDelay
  ecdhCurves :=
    if env.fipsEnabled = some false then some ["X25519MLKEM768", "X25519", "P-256"] else none

/-- The filters of every listener. -/
def httpFilters (env : XdsEnv) : List HttpFilter :=
  [.luaPathRewrite env.gatewayPathRewriteScriptFile,
   .extAuthz "gateway_control_plane" env.grpcServerAuthServiceTimeout
     -- The largest gRPC header is subtracted.
     (env.grpcServerMaxReceiveMessageLength - 8192) true true "BadGateway",
   .router]

namespace HTTPPort

/-- The routes of a port, in the order they apply. -/
def configuredRoutes (t : Tables) (p : HTTPPort) : List RouteInstance :=
  ((t.routes.filter (·.httpPort = p.pk)).filterMap t.resolveRoute).insertionSort
    (fun a b => a.order ≤ b.order)

/-- The redirects of an API port to the forms with a trailing slash: a dictionary, so a path
keeps its place and its last target. -/
def redirects (routes : List RouteInstance) : List (String × String) :=
  (routes.filter fun r =>
      Text.startsWith r.gatewayPath "/api/" && Text.endsWith r.gatewayPath "/").foldl
    (fun acc r => Table.upsert Prod.fst (Text.rstrip '/' r.gatewayPath, r.gatewayPath) acc)
    [("/api", "/api/")]

/-- The route entries of a port. -/
def routeEntries (t : Tables) (p : HTTPPort) (gw : GatewayClusterArg) : List RouteEntry :=
  let routes := p.configuredRoutes t
  upRoute ::
    (if p.isApiPort then (redirects routes).map fun (path, target) => redirectRoute path target
     else []) ++
    routes.flatMap fun r => r.getXdsRouteConfig t gw

/-- `HTTPPort.get_xds_listener_config`. -/
def getXdsListenerConfig (env : XdsEnv) (t : Tables) (p : HTTPPort) (gw : GatewayClusterArg) :
    ListenerConfig where
  name := p.envoyListenerName
  address := if env.isIpv6Enabled then "::" else "0.0.0.0"
  portValue := p.number
  ipv4Compat := if env.isIpv6Enabled then some true else none
  filter :=
    { httpFilters := httpFilters env
      routes := p.routeEntries t gw
      xffNumTrustedHops := env.xdsXffNumTrustedHops }
  perConnectionBufferLimitBytes := env.envoyPerConnectionBufferLimitBytes
  transportSocket := if p.useHttps then some (transportSocket env) else none

end HTTPPort

/-- `XDSView.get_qs`: one row for each value of the name column, in the order of that column.
`resourceNames` is the form field of the request; a text is iterated by character. -/
def getQs {α : Type} (name : α → String) (rows : List α) (resourceNames : Option String) :
    List α :=
  let qs := Table.distinctOn name (rows.insertionSort (fun a b => name a ≤ name b))
  match resourceNames with
  | none => qs
  | some names =>
    if names = "" ∨ names = "*" then qs
    else qs.filter fun a => (names.toList.map fun c => String.ofList [c]).contains (name a)

/-- The clusters of `ClusterDiscoverServiceView.post`, each with the timeout computed for all
clusters in one query. -/
def cdsResources (env : XdsEnv) (t : Tables) (resourceNames : Option String) :
    List ClusterConfig :=
  ((getQs Route.envoyClusterName t.routes resourceNames).filterMap t.resolveRoute).map
    fun r => r.getXdsClusterConfig env t (some (t.maxRouteTimeout r.serviceCluster.pk))

/-- The listeners of `ListenerDiscoverServiceView.post`. -/
def ldsResources (env : XdsEnv) (t : Tables) (resourceNames : Option String) :
    List ListenerConfig :=
  (getQs HTTPPort.envoyListenerName t.httpPorts resourceNames).map
    fun p => p.getXdsListenerConfig env t (some t.gatewayClusterName)

/-- `SecretDiscoverServiceView._collect_db_ca_certs`. -/
def collectDbCaCerts (t : Tables) : SecretConfig :=
  let pemBlocks := (t.caCertificates.map fun c => Text.strip c.pemData).filter (· ≠ "")
  { name := sdsSecretConfigName
    trustedCa := if pemBlocks = [] then none else some (Text.join '\n' pemBlocks) }

/-- The keys of the discovery caches. -/
inductive XdsKey where
  | cds
  | lds
  | sds
  deriving DecidableEq, Repr

/-- A discovery response: the resources of one type. -/
inductive DiscoveryResponse where
  | clusters (resources : List ClusterConfig)
  | listeners (resources : List ListenerConfig)
  | secrets (resources : List SecretConfig)
  deriving DecidableEq, Repr

/-- The response a view builds from the tables for an Envoy poll. Envoy posts JSON, so the form
field `resource_names` is absent. -/
def rebuild (env : XdsEnv) (t : Tables) : XdsKey → DiscoveryResponse
  | .cds => .clusters (cdsResources env t none)
  | .lds => .listeners (ldsResources env t none)
  | .sds => .secrets [collectDbCaCerts t]

/-- Empty cluster and listener responses are not cached; the secret always is. -/
def DiscoveryResponse.cacheable : DiscoveryResponse → Bool
  | .clusters resources => !resources.isEmpty
  | .listeners resources => !resources.isEmpty
  | .secrets _ => true

end AapGateway
