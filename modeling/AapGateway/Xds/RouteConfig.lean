import AapGateway.Models.Database

/-!
# Route configuration

The Envoy route entries a `Route` compiles to: its main entry and, for a route with gateway
authentication on one of the built-in services, the entries that send the service's login and
logout pages to the gateway. Each entry carries the per-route configuration of the external
authorization filter; its context extensions are the only thing the authorization server
learns about the route.

The per-filter type URLs are fixed per constructor and are not repeated in the records.

## Main results

* `contextExtensions_of_mem_getXdsRouteConfig`: every entry of a route with gateway
  authentication runs the authorization check with the route's own internal flag and the
  cluster's `auth_type`.
-/

namespace AapGateway

/-- `AUTH_TYPE_NONE`. -/
def authTypeNone : String := "NONE"

/-- `map<string, string>` sent to the authorization server. -/
abbrev ContextExtensions := List (String × String)

/-- The per-route configuration of the external authorization filter. -/
inductive ExtAuthzPerRoute where
  | disabled
  | checkSettings (contextExtensions : ContextExtensions)
  deriving DecidableEq, Repr

/-- The path condition of a route entry. -/
inductive PathMatch where
  /-- `{"prefix": p}`: the request path begins with `p`. -/
  | pathPrefix (p : String)
  /-- `{"path": p}`: the request path without its query is `p`. -/
  | path (p : String)
  deriving DecidableEq, Repr

/-- What Envoy does with a matched request. -/
inductive RouteAction where
  | route (prefixRewrite cluster : String) (timeout idleTimeout hostRewriteLiteral : Option String)
  | directResponse (status : ℕ) (body : String)
  | redirect (pathRedirect responseCode : String)
  deriving DecidableEq, Repr

/-- One entry of a virtual host's route list. -/
structure RouteEntry where
  pathMatch : PathMatch
  /-- `match.tls_context` with `presented` and `validated`. -/
  tlsContext : Bool := false
  action : RouteAction
  /-- The Lua filter's metadata: the path to rewrite and what it is rewritten to. -/
  luaMetadata : Option (String × String) := none
  /-- The name of the Lua script the route runs. -/
  luaScript : Option String := none
  extAuthz : Option ExtAuthzPerRoute
  requestHeadersToRemove : List String := []
  requestHeadersToAdd : List (String × String) := []
  deriving DecidableEq, Repr

/-- Envoy's path test for an entry. -/
def PathMatch.matches (m : PathMatch) (requestPath : String) : Bool :=
  match m with
  | .pathPrefix p => Text.startsWith requestPath p
  | .path p => requestPath.toList.takeWhile (· ≠ '?') = p.toList

namespace ServiceCluster

/-- `ServiceCluster._get_auth_path` for the path attribute `path` of the service type. A path
that is not set is rendered by the f-string as `None`. -/
def getAuthPath (c : ServiceCluster ServiceType) (urlPrefix : String) (path : Option String) :
    Option String :=
  let name := c.serviceType.name
  if name = DefaultServiceType.controller.value ∨ name = DefaultServiceType.eda.value then
    some (Text.rstrip '/' urlPrefix ++ Text.ofOption path)
  else if name = DefaultServiceType.hub.value then
    some (Text.ofOption path)
  else
    none

/-- `ServiceCluster.get_login_path`. -/
def getLoginPath (c : ServiceCluster ServiceType) (urlPrefix : String) : Option String :=
  c.getAuthPath urlPrefix c.serviceType.loginPath

/-- `ServiceCluster.get_logout_path`. -/
def getLogoutPath (c : ServiceCluster ServiceType) (urlPrefix : String) : Option String :=
  c.getAuthPath urlPrefix c.serviceType.logoutPath

end ServiceCluster

/-- `reverse('login')`. -/
def loginUrl : String := "/api/gateway/v1/login/"

/-- `reverse('logout')`. -/
def logoutUrl : String := "/api/gateway/v1/logout/"

namespace Tables

/-- The cluster's type is named `gateway`. -/
def isGatewayCluster (t : Tables) (c : ServiceCluster ℕ) : Bool :=
  (t.resolveCluster c).any (·.serviceType.name = DefaultServiceType.gateway.value)

/-- The cluster name of the gateway's own route: the first route of the first cluster of type
`gateway`, in primary key order. -/
def gatewayClusterName (t : Tables) : Option String := do
  let sc ← Table.firstByKey ServiceCluster.pk (t.serviceClusters.filter t.isGatewayCluster)
  let gwRoute ← Table.firstByKey Route.pk (t.routesOf sc.pk)
  return gwRoute.envoyClusterName

end Tables

/-- The `gateway_cluster_name` argument of the configuration builders: `none` is the sentinel
`_UNSET`, for which the name is looked up. -/
abbrev GatewayClusterArg := Option (Option String)

/-- The cluster name an argument stands for. -/
def GatewayClusterArg.resolve (t : Tables) : GatewayClusterArg → Option String
  | none => t.gatewayClusterName
  | some name => name

namespace Route

/-- `Route.get_effective_timeout_seconds`. -/
def getEffectiveTimeoutSeconds {C : Type} (r : Route C) (p : Preferences) : ℤ :=
  max (r.requestTimeoutSeconds.getD 0 : ℤ) p.requestTimeout

/-- `Route.get_effective_idle_timeout_seconds`. -/
def getEffectiveIdleTimeoutSeconds {C : Type} (r : Route C) (p : Preferences) : ℤ :=
  max (r.idleTimeoutSeconds.getD 0 : ℤ) p.idleTimeout

/-- The context extensions of a login or logout entry. -/
def loginContextExtensions (r : RouteInstance) : ContextExtensions :=
  [("is_internal_route", r.isInternalRouteString),
   ("service_type", r.serviceCluster.serviceType.name),
   ("auth_type", r.serviceCluster.authType)]

/-- An entry that sends a page of the service to a page of the gateway. -/
def gatewayPageEntry (r : RouteInstance) (cluster page gatewayPage : String) : RouteEntry where
  pathMatch := .pathPrefix page
  action := .route gatewayPage cluster none none none
  extAuthz := some (.checkSettings r.loginContextExtensions)

/-- `Route.get_xds_login_logout_routes`. -/
def getXdsLoginLogoutRoutes (t : Tables) (r : RouteInstance) (gw : GatewayClusterArg) :
    List RouteEntry :=
  if !r.enableGatewayAuth then []
  else
    match gw.resolve t with
    | none => []
    | some cluster =>
      ((r.serviceCluster.getLoginPath r.gatewayPath).toList.map
          fun url => r.gatewayPageEntry cluster url loginUrl) ++
        ((r.serviceCluster.getLogoutPath r.gatewayPath).toList.map
          fun url => r.gatewayPageEntry cluster url logoutUrl)

/-- The context extensions of the main entry of a route with gateway authentication. -/
def mainContextExtensions (r : RouteInstance) : ContextExtensions :=
  [("is_internal_route", r.isInternalRouteString),
   ("reject_failed_basic_auth", r.rejectFailedBasicAuthString),
   ("service_type", r.serviceCluster.serviceType.name),
   ("auth_type", r.serviceCluster.authType)]

/-- The external authorization configuration of a route's main entry. -/
def extAuthzConfig (r : RouteInstance) : ExtAuthzPerRoute :=
  if !r.enableGatewayAuth then
    if r.isEdaService then
      -- EDA webhooks authenticate themselves but still get the trusted proxy header.
      .checkSettings
        [("is_internal_route", r.isInternalRouteString),
         ("service_type", r.serviceCluster.serviceType.name),
         ("auth_type", authTypeNone)]
    else .disabled
  else
    .checkSettings r.mainContextExtensions

/-- The main entry of a route. -/
def mainEntry (p : Preferences) (r : RouteInstance) : RouteEntry where
  pathMatch := .pathPrefix r.gatewayPath
  tlsContext := r.enableMtls
  action := .route r.servicePath r.envoyClusterName
    (some ((r.getEffectiveTimeoutSeconds p).repr ++ "s"))
    (some ((r.getEffectiveIdleTimeoutSeconds p).repr ++ "s"))
    (if r.serviceCluster.upstreamHostname = "" then none
      else some r.serviceCluster.upstreamHostname)
  luaMetadata :=
    if r.servicePath = r.gatewayPath then none else some (r.gatewayPath, r.servicePath)
  luaScript := if r.servicePath = r.gatewayPath then none else some "rewrite.lua"
  extAuthz := some r.extAuthzConfig
  requestHeadersToRemove := ["Subject"]
  requestHeadersToAdd := if r.enableMtls then [("Subject", "%DOWNSTREAM_PEER_SUBJECT%")] else []

/-- `Route.get_xds_route_config`: the login and logout entries, then the main entry. -/
def getXdsRouteConfig (t : Tables) (r : RouteInstance) (gw : GatewayClusterArg) :
    List RouteEntry :=
  if r.gatewayPath = "" ∨ r.servicePath = "" ∨ r.envoyClusterName = "" then []
  else r.getXdsLoginLogoutRoutes t gw ++ [r.mainEntry t.preferences]

/-- The entries of a route: its main entry, or a page sent to the gateway. -/
theorem mem_getXdsRouteConfig {t : Tables} {r : RouteInstance} {gw : GatewayClusterArg}
    {e : RouteEntry} (h : e ∈ r.getXdsRouteConfig t gw) :
    e = r.mainEntry t.preferences ∨
      r.enableGatewayAuth = true ∧ ∃ cluster page gatewayPage,
        gw.resolve t = some cluster ∧ e = r.gatewayPageEntry cluster page gatewayPage := by
  unfold getXdsRouteConfig at h
  split at h
  · exact absurd h List.not_mem_nil
  · rcases List.mem_append.mp h with hpage | hmain
    · right
      unfold getXdsLoginLogoutRoutes at hpage
      split at hpage
      · exact absurd hpage List.not_mem_nil
      · rename_i hauth
        refine ⟨by simpa using hauth, ?_⟩
        split at hpage
        · exact absurd hpage List.not_mem_nil
        · rename_i cluster hcluster
          rcases List.mem_append.mp hpage with hlogin | hlogout
          · obtain ⟨page, -, rfl⟩ := List.mem_map.mp hlogin
            exact ⟨cluster, page, loginUrl, hcluster, rfl⟩
          · obtain ⟨page, -, rfl⟩ := List.mem_map.mp hlogout
            exact ⟨cluster, page, logoutUrl, hcluster, rfl⟩
    · exact Or.inl (List.mem_singleton.mp hmain)

/-- Every entry of a route with gateway authentication runs the authorization check, and tells
it the route's internal flag and the cluster's `auth_type`. -/
theorem contextExtensions_of_mem_getXdsRouteConfig {t : Tables} {r : RouteInstance}
    {gw : GatewayClusterArg} {e : RouteEntry} (h : e ∈ r.getXdsRouteConfig t gw)
    (hauth : r.enableGatewayAuth = true) :
    ∃ ce, e.extAuthz = some (.checkSettings ce) ∧
      ce.lookup "is_internal_route" = some r.isInternalRouteString ∧
      ce.lookup "auth_type" = some r.serviceCluster.authType := by
  rcases mem_getXdsRouteConfig h with rfl | ⟨-, cluster, page, gatewayPage, -, rfl⟩
  · refine ⟨r.mainContextExtensions, ?_, rfl, rfl⟩
    show some r.extAuthzConfig = _
    rw [extAuthzConfig, hauth]
    rfl
  · exact ⟨r.loginContextExtensions, rfl, rfl, rfl⟩

end Route

end AapGateway
