import AapGateway.Proxy.ExternalAuth
import AapGateway.Routes.FirstMatch
import AapGateway.Xds.References

/-!
# The way of a request through the proxy

The listeners, the clusters and the answers of the authorization server come from the gateway. What
is done with them is done by Envoy, which is not part of the gateway: its filters are a parameter,
with the documented behaviour that the configuration relies on. Envoy polls listeners and clusters
separately, so they may have been built from different contents of the database.

The Lua script may change the path of a request, and an entry is then chosen for the new path. So
the script can be that of one route, and the entry that the request goes by one of another route.

## Main definitions

* `Envoy` and `Envoy.Documented`: the filters, and what is assumed of them;
* `Arrival`: what a request is when the script has run;
* `Destination`: where a request that a route lets through goes, and with which path;
* `Access`: what the authorization server has said about it.

## Main results

* `mem_cdsResources`: the clusters, by the routes they are built from;
* `forwarded_sound`: every request that reaches a node goes by a stored route of the port that it
  arrived at, to a node of the service of the route or to a sign-in page of the gateway, and with
  the authorization that the route asks for.
-/

namespace AapGateway.Proxy

/-- A request of a client. -/
structure ProxiedRequest where
  http : HttpRequest
  /-- The client has presented a certificate that validates. -/
  clientCertificate : Bool := false

/-- What route entries can test of a request. -/
def ProxiedRequest.client (req : ProxiedRequest) : ClientRequest :=
  ⟨req.http.path, req.clientCertificate⟩

/-- A request that the proxy sends to an endpoint. -/
structure UpstreamRequest where
  endpoint : LbEndpoint
  path : String
  /-- The headers that the authorization has added. -/
  added : List Header

/-- The authorization server, as the proxy calls it. -/
abbrev CheckCall := ContextExtensions → HttpRequest → Except Raised CheckResponse

/-- The HTTP filters of Envoy, in the order in which a listener has them. -/
structure Envoy where
  /-- What the Lua script makes of a request, by the metadata of the entry that it runs for. -/
  script : String × String → HttpRequest → HttpRequest
  /-- A request can leave the Lua filter of a listener as this one, and go on by this entry. -/
  chooses : ListenerConfig → ProxiedRequest → RouteEntry → HttpRequest → Prop
  /-- The authorization filter can pass the request on, with these headers added. -/
  passes : ListenerConfig → CheckCall → RouteEntry → HttpRequest → List Header → Prop
  /-- The router can send the request to this endpoint, with this path. -/
  sends : List ClusterConfig → RouteEntry → HttpRequest → LbEndpoint → String → Prop

/-- The proxy can forward the request as this one. -/
def Envoy.Forwards (envoy : Envoy) (listener : ListenerConfig) (clusters : List ClusterConfig)
    (call : CheckCall) (req : ProxiedRequest) (up : UpstreamRequest) : Prop :=
  ∃ e http, envoy.chooses listener req e http ∧ envoy.passes listener call e http up.added ∧
    envoy.sends clusters e http up.endpoint up.path

/-- The authorization server allows the request, and answers with these headers. -/
def Allowed (call : CheckCall) (ce : ContextExtensions) (http : HttpRequest)
    (added : List Header) : Prop :=
  ∃ response, call ce http = .ok response ∧ response.isOk = true ∧ added = response.headers

/-- What the filter configuration of an entry asks for. An entry without one is checked with no
context. -/
def Authorized (call : CheckCall) (e : RouteEntry) (http : HttpRequest) (added : List Header) :
    Prop :=
  match e.extAuthz with
  | some .disabled => added = []
  | some (.checkSettings ce) => Allowed call ce http added
  | none => Allowed call [] http added

/-- The behaviour of Envoy that the configuration relies on. -/
structure Envoy.Documented (envoy : Envoy) : Prop where
  /-- Only the script of an entry that accepts the request changes it. -/
  chooses_script : ∀ {listener req e http}, envoy.chooses listener req e http →
    http = req.http ∨ ∃ first ∈ listener.filter.routes, first.accepts req.client = true ∧
      first.luaScript.isSome ∧ ∃ metadata ∈ first.luaMetadata, http = envoy.script metadata req.http
  /-- The entry is one of the listener, and accepts what the script has left. -/
  chooses_accepts : ∀ {listener req e http}, envoy.chooses listener req e http →
    e ∈ listener.filter.routes ∧ e.accepts ⟨http.path, req.clientCertificate⟩ = true
  /-- An `ext_authz` filter without `failure_mode_allow` passes on only what its server allows, on
  every entry that does not disable it. -/
  passes_authorized : ∀ {listener call e http added}, envoy.passes listener call e http added →
    (∃ timeout maxRequestBytes partialMessage packAsBytes status,
      HttpFilter.extAuthz "gateway_control_plane" timeout maxRequestBytes partialMessage packAsBytes
        status ∈ listener.filter.httpFilters) → Authorized call e http added
  /-- The router sends to an endpoint of the cluster that the entry names. -/
  sends_cluster : ∀ {clusters e http endpoint path}, envoy.sends clusters e http endpoint path →
    ∃ prefixRewrite name timeout idleTimeout hostRewrite,
      e.action = .route prefixRewrite name timeout idleTimeout hostRewrite ∧
      ∃ cluster ∈ clusters, cluster.name = name ∧ endpoint ∈ cluster.lbEndpoints
  /-- The prefix that the entry has matched is replaced. -/
  sends_rewrite : ∀ {clusters e http endpoint path}, envoy.sends clusters e http endpoint path →
    ∀ prefixRewrite name timeout idleTimeout hostRewrite,
      e.action = .route prefixRewrite name timeout idleTimeout hostRewrite →
        ∀ matched rest, e.pathMatch = .pathPrefix matched → http.path = matched ++ rest →
          path = prefixRewrite ++ rest

/-! ### What a forwarded request is -/

/-- An endpoint is a node of some service, at some port if one is given. -/
def ServedBy (t : Tables) (servicePk : ℕ) (servicePort : Option ℤ) (endpoint : LbEndpoint) : Prop :=
  (∀ port ∈ servicePort, endpoint.portValue = port) ∧
    ∃ node ∈ t.serviceNodes, node.serviceCluster = servicePk ∧ endpoint.address = node.address

/-- What a request is when the script has run: as it was, or what the script has made of it for a
stored route of the port. -/
inductive Arrival (t : Tables) (p : HTTPPort) (script : String × String → HttpRequest → HttpRequest)
    (req : ProxiedRequest) (http : HttpRequest) : Prop
  | unchanged (h : http = req.http)
  | rewritten {r : Route ℕ} {ri : RouteInstance} (hr : r ∈ t.routes) (hport : r.httpPort = p.pk)
      (hresolve : t.resolveRoute r = some ri)
      (hpath : Text.startsWith req.http.path ri.gatewayPath = true)
      (hhttp : http = script (ri.gatewayPath, ri.servicePath) req.http)

/-- Where a request goes by a route. The route is stored in `t`, and the node in `t'`. -/
inductive Destination (t t' : Tables) (r : RouteInstance) (clientCertificate : Bool)
    (http : HttpRequest) (up : UpstreamRequest) : Prop
  /-- To the service of the route, with the service path in place of the gateway path. -/
  | service {rest : String} (hpath : http.path = r.gatewayPath ++ rest)
      (hrewrite : up.path = r.servicePath ++ rest)
      (hmtls : r.enableMtls = true → clientCertificate = true)
      (hserved : ServedBy t' r.serviceCluster.pk (some r.servicePort) up.endpoint)
  /-- To the sign-in or the sign-out page of the gateway. -/
  | page {gateway : ServiceCluster ℕ} {rest : String} (hgateway : gateway ∈ t.serviceClusters)
      (htype : t.isGatewayCluster gateway = true)
      (hrewrite : up.path = loginUrl ++ rest ∨ up.path = logoutUrl ++ rest)
      (hserved : ServedBy t' gateway.pk none up.endpoint)

/-- What the authorization server has said about a request that goes by a route. -/
structure Access (authz : ServerEnv) (r : RouteInstance) (http : HttpRequest)
    (added : List Header) : Prop where
  /-- A route with gateway authentication lets through what the server does, by the flags of the
  route. -/
  checked : r.enableGatewayAuth = true → ∃ ce response, check authz ce http = .ok response ∧
    isRouteInternal ce = r.isInternalRoute ∧ getItem ce "auth_type" = r.serviceCluster.authType ∧
    response.isOk = true ∧ added = response.headers
  /-- By an internal route only services come in, and requests of the sign-in flow. -/
  internal : r.enableGatewayAuth = true → r.isInternalRoute = true →
    r.serviceCluster.AuthTypeDeclared →
    (∃ drf, authz.getDrfRequest http = .ok drf ∧ drf.auth = .text serviceTokenAuthString) ∨
      isOidcPublicPath http.path = true
  /-- A token is for the user whom the request authenticates, and only a route with gateway
  authentication attaches one. -/
  token : ∀ h ∈ added, ∀ jwt, h.value = .gatewayToken jwt → r.enableGatewayAuth = true ∧
    ∃ drf user, authz.getDrfRequest http = .ok drf ∧ drf.user = .ok (some user) ∧
      checkOauth2ScopePermission authz drf = .ok none ∧ getJwtForUser authz user = .ok jwt

section Clusters

variable {env : XdsEnv} {t : Tables}

/-- The clusters, by the routes they are built from. -/
theorem mem_cdsResources {cluster : ClusterConfig} (h : cluster ∈ cdsResources env t none) :
    ∃ b ∈ t.routes, ∃ bi, t.resolveRoute b = some bi ∧
      cluster = bi.getXdsClusterConfig env t none := by
  rw [cdsResources] at h
  obtain ⟨bi, hbi, rfl⟩ := List.mem_map.mp h
  obtain ⟨b, hb, hresolve⟩ := List.mem_filterMap.mp hbi
  have hsorted : b ∈ t.routes.insertionSort (fun a b => a.envoyClusterName ≤ b.envoyClusterName) :=
    Table.mem_of_mem_distinctOn hb
  exact ⟨b, (List.mem_insertionSort _).mp hsorted, bi, hresolve, Route.getXdsClusterConfig_stash bi⟩

/-- The endpoints of a route are nodes of its service. -/
theorem servedBy_getXdsClusterConfig {bi : RouteInstance} {endpoint : LbEndpoint}
    (hendpoint : endpoint ∈ (bi.getXdsClusterConfig env t none).lbEndpoints) :
    ServedBy t bi.serviceCluster.pk (some bi.servicePort) endpoint := by
  obtain ⟨node, hnode, rfl⟩ := List.mem_map.mp hendpoint
  obtain ⟨hmem, hcluster⟩ := List.mem_filter.mp (List.mem_filter.mp hnode).1
  refine ⟨fun port hport => Option.some.inj hport, node, hmem, of_decide_eq_true hcluster, rfl⟩

/-- A resolved route has the columns of its row, and the cluster that the row points to. -/
theorem columns_of_resolveRoute {r : Route ℕ} {ri : RouteInstance}
    (h : t.resolveRoute r = some ri) :
    ri.serviceCluster.pk = r.serviceCluster ∧ ri.servicePort = r.servicePort := by
  obtain ⟨c, hc, rfl⟩ := Option.map_eq_some_iff.mp h
  obtain ⟨row, hfind, hresolve⟩ := Option.bind_eq_some_iff.mp hc
  obtain ⟨s, -, rfl⟩ := Option.map_eq_some_iff.mp hresolve
  have hpk := List.find?_some hfind
  exact ⟨of_decide_eq_true hpk, rfl⟩

/-- The endpoints of a cluster that has the name of a stored route are nodes of the service of that
route, even if the route and the clusters come from different contents of the database. -/
theorem servedBy_of_name {t' : Tables} {r : Route ℕ} {cluster : ClusterConfig}
    {endpoint : LbEndpoint} (hcanon : t.CanonicalNames) (hcanon' : t'.CanonicalNames)
    (hr : r ∈ t.routes) (hcluster : cluster ∈ cdsResources env t' none)
    (hname : cluster.name = r.envoyClusterName) (hendpoint : endpoint ∈ cluster.lbEndpoints) :
    ServedBy t' r.serviceCluster (some r.servicePort) endpoint := by
  obtain ⟨b, hb, bi, hresolve, rfl⟩ := mem_cdsResources hcluster
  have hbi : bi.envoyClusterName = r.envoyClusterName := hname
  rw [Tables.envoyClusterName_of_resolveRoute hresolve, hcanon' b hb, hcanon r hr] at hbi
  obtain ⟨hsame, hport, -⟩ := Route.clusterName_eq_iff.mp hbi
  obtain ⟨hpk, hservicePort⟩ := columns_of_resolveRoute hresolve
  have hserved := servedBy_getXdsClusterConfig hendpoint
  rwa [hpk, hservicePort, hsame, hport] at hserved

end Clusters

section Access

variable {authz : ServerEnv} {r : RouteInstance} {http : HttpRequest} {added : List Header}

/-- A token in an answer is for the user whom the request authenticates. -/
theorem token_of_check {ce : ContextExtensions} {response : CheckResponse} {h : Header}
    {jwt : String} (hcheck : check authz ce http = .ok response) (hmem : h ∈ response.headers)
    (htoken : h.value = .gatewayToken jwt) :
    getItem ce "auth_type" ≠ authTypeNone ∧
      ∃ drf user, authz.getDrfRequest http = .ok drf ∧ drf.user = .ok (some user) ∧
        checkOauth2ScopePermission authz drf = .ok none ∧ getJwtForUser authz user = .ok jwt := by
  have hcarries : response.CarriesGatewayToken := ⟨h, hmem, jwt, htoken⟩
  have hasked : getItem ce "auth_type" ≠ authTypeNone := by
    -- Where no authentication is asked for, the answer is an anonymous pass.
    intro hnone
    obtain ⟨req, -, hrest⟩ := bind_eq_ok hcheck
    rw [if_pos hnone] at hrest
    cases hrest
    exact not_carriesGatewayToken_returnNoAuthenticationRequired hcarries
  refine ⟨hasked, ?_⟩
  obtain ⟨drf, hdrf, ⟨-, rfl⟩ | hdecided⟩ := check_spec hcheck
  · exact absurd hcarries not_carriesGatewayToken_returnNoAuthenticationRequired
  · rcases hdecided with ⟨code, message, httpStatus, value, body⟩ | _ |
      ⟨-, huser, hpk, hne, hscope, hjwt⟩
    · rw [List.mem_singleton.mp hmem] at htoken
      cases htoken
    · exact absurd hcarries not_carriesGatewayToken_returnNoAuthenticationRequired
    · refine ⟨drf, _, hdrf, huser, hscope, ?_⟩
      rcases mem_addTrustedProxyHeader hmem with hold | ⟨signature, hsignature⟩
      · rw [List.mem_singleton.mp hold] at htoken
        cases htoken
        exact hjwt
      · rw [hsignature] at htoken
        cases htoken

/-- By an internal route only services come in, and requests of the sign-in flow. -/
theorem internal_of_check {ce : ContextExtensions} {response : CheckResponse}
    (hcheck : check authz ce http = .ok response) (hok : response.isOk = true)
    (hinternal : isRouteInternal ce = true) (htype : getItem ce "auth_type" ≠ authTypeNone) :
    (∃ drf, authz.getDrfRequest http = .ok drf ∧ drf.auth = .text serviceTokenAuthString) ∨
      isOidcPublicPath http.path = true := by
  obtain ⟨drf, hdrf, ⟨hopen, -⟩ | hdecided⟩ := check_spec hcheck
  · exact Or.inr (hopen.resolve_left htype)
  · rw [hinternal] at hdecided
    exact Or.inl ⟨drf, hdrf, hdecided.auth_of_isOk hok⟩

/-- The internal flag of a route, as the server reads it. -/
theorem isRouteInternal_of_lookup {ce : ContextExtensions}
    (h : ce.lookup "is_internal_route" = some r.isInternalRouteString) :
    isRouteInternal ce = r.isInternalRoute := by
  rw [isRouteInternal, getItem, h, Route.isInternalRouteString]
  cases r.isInternalRoute <;> rfl

/-- An entry of a route with gateway authentication passes on what the server lets through. -/
theorem access_of_authenticated {t : Tables} {gw : GatewayClusterArg} {e : RouteEntry}
    (he : e ∈ r.getXdsRouteConfig t gw) (hauth : r.enableGatewayAuth = true)
    (h : Authorized (check authz) e http added) : Access authz r http added := by
  obtain ⟨ce, hce, hflag, htype⟩ := Route.contextExtensions_of_mem_getXdsRouteConfig he hauth
  rw [Authorized, hce] at h
  obtain ⟨response, hcheck, hok, rfl⟩ := h
  have hinternal := isRouteInternal_of_lookup hflag
  have hauthType : getItem ce "auth_type" = r.serviceCluster.authType := by
    rw [getItem, htype, Option.getD_some]
  constructor
  · intro _
    exact ⟨ce, response, hcheck, hinternal, hauthType, hok, rfl⟩
  · intro _ hroute hdeclared
    apply internal_of_check hcheck hok
    · rw [hinternal, hroute]
    · rw [hauthType]
      exact authType_ne_none hdeclared
  · intro header hmem jwt htoken
    exact ⟨hauth, (token_of_check hcheck hmem htoken).2⟩

/-- A route without gateway authentication has no check, or one that asks for no authentication. -/
theorem extAuthzConfig_of_unauthenticated (hauth : r.enableGatewayAuth = false) :
    r.extAuthzConfig = .disabled ∨
      ∃ ce, r.extAuthzConfig = .checkSettings ce ∧ getItem ce "auth_type" = authTypeNone := by
  rw [Route.extAuthzConfig, hauth]
  cases r.isEdaService with
  | false => exact Or.inl rfl
  | true => exact Or.inr ⟨_, rfl, rfl⟩

/-- An entry of a route without gateway authentication attaches no token. -/
theorem access_of_unauthenticated {p : Preferences} (hauth : r.enableGatewayAuth = false)
    (h : Authorized (check authz) (r.mainEntry p) http added) : Access authz r http added := by
  have hentry : (r.mainEntry p).extAuthz = some r.extAuthzConfig := rfl
  have hnone : ∀ header ∈ added, ∀ jwt, header.value ≠ .gatewayToken jwt := by
    intro header hmem jwt htoken
    rcases extAuthzConfig_of_unauthenticated hauth with hdisabled | ⟨ce, hce, htype⟩
    · rw [Authorized, hentry, hdisabled] at h
      rw [show added = [] from h] at hmem
      cases hmem
    · rw [Authorized, hentry, hce] at h
      obtain ⟨response, hcheck, -, rfl⟩ := h
      exact (token_of_check hcheck hmem htoken).1 htype
  have hoff : r.enableGatewayAuth ≠ true := Bool.eq_false_iff.mp hauth
  exact ⟨fun hon => absurd hon hoff, fun hon => absurd hon hoff,
    fun header hmem jwt htoken => absurd htoken (hnone header hmem jwt)⟩

end Access

section Sound

variable {env env' : XdsEnv} {db db' : Database} {authz : ServerEnv} {envoy : Envoy} {p : HTTPPort}
  {req : ProxiedRequest} {http : HttpRequest} {up : UpstreamRequest}

/-- An entry of a port is one that Envoy answers itself, or comes from a route of the port. -/
theorem route_of_entry {t : Tables} {gw : GatewayClusterArg} {e : RouteEntry}
    (he : e ∈ p.routeEntries t gw) :
    e = upRoute ∨ (∃ path target, e = redirectRoute path target) ∨
      ∃ r ∈ t.routes, r.httpPort = p.pk ∧ ∃ ri, t.resolveRoute r = some ri ∧
        e ∈ ri.getXdsRouteConfig t gw := by
  rw [HTTPPort.routeEntries] at he
  rcases List.mem_append.mp he with hfixed | hroute
  · rcases List.mem_cons.mp hfixed with rfl | hredirect
    · exact Or.inl rfl
    · split at hredirect
      · obtain ⟨⟨path, target⟩, -, rfl⟩ := List.mem_map.mp hredirect
        exact Or.inr (Or.inl ⟨path, target, rfl⟩)
      · cases hredirect
  · obtain ⟨ri, hri, hmem⟩ := List.mem_flatMap.mp hroute
    obtain ⟨r, hr, hport, hresolve⟩ := HTTPPort.mem_configuredRoutes.mp hri
    exact Or.inr (Or.inr ⟨r, hr, hport, ri, hresolve, hmem⟩)

/-- The entries of a route: its main entry, or one that leads to a sign-in page of the gateway. -/
theorem entry_cases {t : Tables} {r : RouteInstance} {gw : GatewayClusterArg} {e : RouteEntry}
    (h : e ∈ r.getXdsRouteConfig t gw) :
    e = r.mainEntry t.preferences ∨ r.enableGatewayAuth = true ∧
      ∃ name page gatewayPage, gw.resolve t = some name ∧
        e = r.gatewayPageEntry name page gatewayPage ∧
        (gatewayPage = loginUrl ∨ gatewayPage = logoutUrl) := by
  rw [Route.getXdsRouteConfig] at h
  split at h
  · cases h
  · rcases List.mem_append.mp h with hpage | hmain
    · right
      rw [Route.getXdsLoginLogoutRoutes] at hpage
      split at hpage
      · cases hpage
      · rename_i hauth
        refine ⟨by simpa using hauth, ?_⟩
        split at hpage
        · cases hpage
        · rename_i name hname
          rcases List.mem_append.mp hpage with hlogin | hlogout
          · obtain ⟨page, -, rfl⟩ := List.mem_map.mp hlogin
            exact ⟨name, page, loginUrl, hname, rfl, Or.inl rfl⟩
          · obtain ⟨page, -, rfl⟩ := List.mem_map.mp hlogout
            exact ⟨name, page, logoutUrl, hname, rfl, Or.inr rfl⟩
    · exact Or.inl (List.mem_singleton.mp hmain)

/-- The gateway's own cluster name belongs to a stored route of a cluster of its type. -/
theorem cluster_of_gatewayClusterName {t : Tables} {name : String}
    (h : t.gatewayClusterName = some name) :
    ∃ gateway ∈ t.serviceClusters, t.isGatewayCluster gateway = true ∧
      ∃ r ∈ t.routes, r.serviceCluster = gateway.pk ∧ r.envoyClusterName = name := by
  rw [Tables.gatewayClusterName] at h
  obtain ⟨gateway, hgateway, hrest⟩ := Option.bind_eq_some_iff.mp h
  obtain ⟨r, hr, hname⟩ := Option.bind_eq_some_iff.mp hrest
  obtain ⟨hmem, htype⟩ := List.mem_filter.mp (Table.mem_of_firstByKey_eq_some hgateway)
  obtain ⟨hroute, hcluster⟩ := List.mem_filter.mp (Table.mem_of_firstByKey_eq_some hr)
  exact ⟨gateway, hmem, htype, r, hroute, of_decide_eq_true hcluster, Option.some.inj hname⟩

/-- A request is as it was, or as the script of a route of the port has left it. -/
theorem arrival_of_chooses (hdoc : envoy.Documented) {gw : GatewayClusterArg} {e : RouteEntry}
    (h : envoy.chooses (p.getXdsListenerConfig env db.toTables gw) req e http) :
    Arrival db.toTables p envoy.script req http := by
  obtain hsame | ⟨first, hfirst, haccepts, hscript, metadata, hmetadata, hhttp⟩ :=
    hdoc.chooses_script h
  · exact .unchanged hsame
  · obtain rfl | ⟨path, target, rfl⟩ | ⟨r, hr, hport, ri, hresolve, hmem⟩ := route_of_entry hfirst
    · cases hmetadata
    · cases hmetadata
    · -- Only the main entry of a route has a script.
      obtain rfl | ⟨-, _, _, _, -, rfl, -⟩ := entry_cases hmem
      · have hmain : (if ri.servicePath = ri.gatewayPath then none
            else some (ri.gatewayPath, ri.servicePath)) = some metadata := hmetadata
        split at hmain
        · cases hmain
        · cases hmain
          exact .rewritten hr hport hresolve (Bool.and_eq_true_iff.mp haccepts).1 hhttp
      · cases hmetadata

/-- What is left of a path after a prefix. -/
theorem exists_of_startsWith {path matched : String} (h : Text.startsWith path matched = true) :
    ∃ rest, path = matched ++ rest := by
  obtain ⟨rest, hrest⟩ := List.isPrefixOf_iff_prefix.mp h
  refine ⟨String.ofList rest, ?_⟩
  apply String.ext
  rw [String.toList_append, String.toList_ofList, hrest]

/-- The main entry of a route forwards to the service of the route. -/
theorem destination_of_mainEntry (hdoc : envoy.Documented) {r : Route ℕ} {ri : RouteInstance}
    (hdb : db.CanonicalNames) (hdb' : db'.CanonicalNames) (hr : r ∈ db.routes)
    (hresolve : db.resolveRoute r = some ri)
    (haccepts : (ri.mainEntry db.preferences).accepts ⟨http.path, req.clientCertificate⟩ = true)
    (hsends : envoy.sends (cdsResources env' db'.toTables none) (ri.mainEntry db.preferences) http
      up.endpoint up.path) :
    Destination db.toTables db'.toTables ri req.clientCertificate http up := by
  obtain ⟨haccepted, hcertificate⟩ := Bool.and_eq_true_iff.mp haccepts
  obtain ⟨rest, hpath⟩ := exists_of_startsWith haccepted
  obtain ⟨prefixRewrite, name, timeout, idleTimeout, hostRewrite, haction, cluster, hcluster, hname,
    hendpoint⟩ := hdoc.sends_cluster hsends
  have hrewrite := hdoc.sends_rewrite hsends _ _ _ _ _ rfl _ _ rfl hpath
  cases haction
  rw [Tables.envoyClusterName_of_resolveRoute hresolve] at hname
  have hserved := servedBy_of_name hdb hdb' hr hcluster hname hendpoint
  obtain ⟨hpk, hport⟩ := columns_of_resolveRoute hresolve
  rw [← hpk, ← hport] at hserved
  refine .service hpath hrewrite (fun hmtls => ?_) hserved
  have hcontext : (ri.mainEntry db.preferences).tlsContext = true := hmtls
  rw [hcontext] at hcertificate
  exact hcertificate

/-- A page entry forwards to the gateway. -/
theorem destination_of_gatewayPageEntry (hdoc : envoy.Documented) {ri : RouteInstance}
    {name page gatewayPage : String} (hdb : db.CanonicalNames) (hdb' : db'.CanonicalNames)
    (hgateway : db.gatewayClusterName = some name)
    (hpage : gatewayPage = loginUrl ∨ gatewayPage = logoutUrl)
    (haccepts : (ri.gatewayPageEntry name page gatewayPage).accepts
      ⟨http.path, req.clientCertificate⟩ = true)
    (hsends : envoy.sends (cdsResources env' db'.toTables none)
      (ri.gatewayPageEntry name page gatewayPage) http up.endpoint up.path) :
    Destination db.toTables db'.toTables ri req.clientCertificate http up := by
  obtain ⟨rest, hpath⟩ := exists_of_startsWith (Bool.and_eq_true_iff.mp haccepts).1
  obtain ⟨prefixRewrite, name', timeout, idleTimeout, hostRewrite, haction, cluster, hcluster,
    hname, hendpoint⟩ := hdoc.sends_cluster hsends
  have hrewrite := hdoc.sends_rewrite hsends _ _ _ _ _ rfl _ _ rfl hpath
  cases haction
  obtain ⟨gateway, hmem, htype, r, hr, hpk, rfl⟩ := cluster_of_gatewayClusterName hgateway
  obtain ⟨-, node, hnode, hcluster', haddress⟩ :=
    servedBy_of_name hdb hdb' hr hcluster hname hendpoint
  -- The tags of the route choose among the nodes, but all of them are the gateway's.
  have hserved : ServedBy db'.toTables gateway.pk none up.endpoint :=
    ⟨fun _ hport => (nomatch hport), node, hnode, hcluster'.trans hpk, haddress⟩
  rcases hpage with rfl | rfl
  · exact .page hmem htype (.inl hrewrite) hserved
  · exact .page hmem htype (.inr hrewrite) hserved

/-- A request that reaches a node goes by a stored route of the port that it arrived at. It goes to
the service of this route or to a sign-in page of the gateway, and the authorization server has said
about it what the route asks for. This holds with listeners and clusters that have been built from
different contents of the database. -/
theorem forwarded_sound {serviceId serviceId' : String} {listener : ListenerConfig}
    (hdoc : envoy.Documented) (hdb : Database.Reachable serviceId db)
    (hdb' : Database.Reachable serviceId' db')
    (hlistener : listener ∈ ldsResources env db.toTables none)
    (h : envoy.Forwards listener (cdsResources env' db'.toTables none) (check authz) req up) :
    ∃ p ∈ db.httpPorts, listener.portValue = p.number ∧
      ∃ http, Arrival db.toTables p envoy.script req http ∧
        ∃ r ∈ db.routes, r.httpPort = p.pk ∧ ∃ ri, db.resolveRoute r = some ri ∧
          Destination db.toTables db'.toTables ri req.clientCertificate http up ∧
          Access authz ri http up.added := by
  obtain ⟨p, hp, rfl⟩ := List.mem_map.mp hlistener
  have hport : p ∈ db.httpPorts.insertionSort
      (fun a b => a.envoyListenerName ≤ b.envoyListenerName) := Table.mem_of_mem_distinctOn hp
  refine ⟨p, (List.mem_insertionSort _).mp hport, rfl, ?_⟩
  obtain ⟨e, http, hchooses, hpasses, hsends⟩ := h
  refine ⟨http, arrival_of_chooses hdoc hchooses, ?_⟩
  obtain ⟨he, haccepts⟩ := hdoc.chooses_accepts hchooses
  have hauthorized := hdoc.passes_authorized hpasses
    ⟨_, _, _, _, _, List.mem_cons_of_mem _ List.mem_cons_self⟩
  obtain rfl | ⟨path, target, rfl⟩ | ⟨r, hr, hrport, ri, hresolve, hmem⟩ := route_of_entry he
  · -- Envoy answers `/up` and the redirects itself.
    obtain ⟨_, _, _, _, _, haction, -⟩ := hdoc.sends_cluster hsends
    cases haction
  · obtain ⟨_, _, _, _, _, haction, -⟩ := hdoc.sends_cluster hsends
    cases haction
  · refine ⟨r, hr, hrport, ri, hresolve, ?_⟩
    -- The entry is the one of the route itself, or one of the sign-in pages.
    obtain rfl | ⟨hauth, name, page, gatewayPage, hgateway, rfl, hpage⟩ := entry_cases hmem
    · refine ⟨destination_of_mainEntry hdoc hdb.canonicalNames hdb'.canonicalNames hr hresolve
        haccepts hsends, ?_⟩
      cases hauth : ri.enableGatewayAuth with
      | true => exact access_of_authenticated hmem hauth hauthorized
      | false => exact access_of_unauthenticated hauth hauthorized
    · exact ⟨destination_of_gatewayPageEntry hdoc hdb.canonicalNames hdb'.canonicalNames hgateway
        hpage haccepts hsends, access_of_authenticated hmem hauth hauthorized⟩

end Sound

/-- The listener of the controller service. -/
def websocketListener : ListenerConfig :=
  HTTPPort.getXdsListenerConfig plainHost (websocketTables true)
    { pk := 1, name := "api", number := 443, isApiPort := true, envoyListenerName := "port-443" }
    (some (websocketTables true).gatewayClusterName)

/-- A proxy for requests that the script does not change. -/
def plainEnvoy : Envoy where
  script _ http := http
  chooses listener req e http :=
    http = req.http ∧ listener.filter.routes.find? (·.accepts req.client) = some e
  passes _ call e http added := Authorized call e http added
  sends clusters e http endpoint path :=
    ∃ prefixRewrite name timeout idleTimeout hostRewrite matched rest,
      e.action = .route prefixRewrite name timeout idleTimeout hostRewrite ∧
      e.pathMatch = .pathPrefix matched ∧ http.path = matched ++ rest ∧
      path = prefixRewrite ++ rest ∧
      ∃ cluster ∈ clusters, cluster.name = name ∧ endpoint ∈ cluster.lbEndpoints

/-- This proxy does what is documented. -/
theorem documented_plainEnvoy : plainEnvoy.Documented where
  chooses_script h := Or.inl h.1
  chooses_accepts := by
    rintro listener req e http ⟨rfl, hfind⟩
    exact ⟨List.mem_of_find?_eq_some hfind,
      List.find?_some (p := fun e : RouteEntry => e.accepts req.client) hfind⟩
  passes_authorized h _ := h
  sends_cluster := by
    rintro clusters e http endpoint path ⟨prefixRewrite, name, timeout, idleTimeout, hostRewrite, -,
      -, haction, -, -, -, hcluster⟩
    exact ⟨prefixRewrite, name, timeout, idleTimeout, hostRewrite, haction, hcluster⟩
  sends_rewrite := by
    rintro clusters e http endpoint path ⟨prefixRewrite, name, timeout, idleTimeout, hostRewrite,
      matched, rest, haction, hmatch, hpath, rfl, -⟩ prefixRewrite' name' timeout' idleTimeout'
      hostRewrite' haction' matched' rest' hmatch' hpath'
    rw [haction] at haction'
    rw [hmatch] at hmatch'
    cases haction'
    cases hmatch'
    rw [String.append_right_inj matched |>.mp (hpath.symm.trans hpath')]

/-- A request of a service reaches the node of the controller. -/
theorem forwarded_sound_websocketDatabase :
    ∃ up : UpstreamRequest, plainEnvoy.Forwards websocketListener
        (cdsResources plainHost (websocketTables true) none) (check serviceTokenServer)
        ⟨serviceRequest, false⟩ up ∧ up.path = "/api/v2/me/" ∧ up.endpoint.address = "10.0.0.1" ∧
      ∃ p ∈ (websocketTables true).httpPorts, websocketListener.portValue = p.number ∧
        ∃ http, Arrival (websocketTables true) p plainEnvoy.script ⟨serviceRequest, false⟩ http ∧
          ∃ r ∈ (websocketTables true).routes, r.httpPort = p.pk ∧
            ∃ ri, (websocketTables true).resolveRoute r = some ri ∧
              Destination (websocketTables true) (websocketTables true) ri false http up ∧
              Access serviceTokenServer ri http up.added := by
  have hforwards : plainEnvoy.Forwards websocketListener
      (cdsResources plainHost (websocketTables true) none) (check serviceTokenServer)
      ⟨serviceRequest, false⟩ ⟨⟨"10.0.0.1", 8080, _⟩, "/api/v2/me/", _⟩ :=
    ⟨_, serviceRequest, ⟨rfl, rfl⟩, ⟨_, rfl, rfl, rfl⟩,
      ⟨_, _, _, _, _, "/api/controller/", "v2/me/", rfl, rfl, rfl, rfl, _, List.mem_cons_self, rfl,
        List.mem_cons_self⟩⟩
  exact ⟨_, hforwards, rfl, rfl, forwarded_sound documented_plainEnvoy
    (reachable_websocketDatabase true) (reachable_websocketDatabase true)
    (List.mem_singleton_self _) hforwards⟩

end AapGateway.Proxy
