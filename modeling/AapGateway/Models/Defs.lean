import AapGateway.Foundations.Text
import AapGateway.Foundations.Table

/-!
# The proxy's data model

The rows of the service tables: service types, service clusters and their nodes, HTTP ports,
routes and CA certificates, with the preferences the proxy configuration reads.

A model that holds a foreign key is a structure over the type of what the key points to. With
`ℕ` there it is a row as the table stores it; with the referenced object there it is the
instance the code navigates, so `route.serviceCluster.serviceType.name` reads as in the
source.

Fields that no modelled function reads (descriptions, audit columns) are left out.
-/

namespace AapGateway

/-- The built-in service type names (`DefaultServiceType`). -/
inductive DefaultServiceType where
  | gateway
  | controller
  | eda
  | hub
  | metrics
  deriving DecidableEq, Repr

/-- The stored name of a built-in service type. -/
def DefaultServiceType.value : DefaultServiceType → String
  | .gateway => "gateway"
  | .controller => "controller"
  | .eda => "eda"
  | .hub => "hub"
  | .metrics => "metrics"

/-- `ServiceType`. -/
structure ServiceType where
  pk : ℕ
  name : String
  pingUrl : Option String
  loginPath : Option String
  logoutPath : Option String
  serviceIndexPath : Option String
  deriving DecidableEq, Repr

/-- `ServiceType.is_eda_service`. -/
def ServiceType.isEdaService (t : ServiceType) : Bool :=
  t.name = DefaultServiceType.eda.value

/-- `ServiceCluster.ServiceAuthType`: the declared choices of `auth_type`. -/
inductive ServiceAuthType where
  | jwtAuth
  | basicAuth
  | tokenAuth
  deriving DecidableEq, Repr

/-- The stored value of an `auth_type` choice. -/
def ServiceAuthType.value : ServiceAuthType → String
  | .jwtAuth => "JWT"
  | .basicAuth => "BASIC"
  | .tokenAuth => "TOKEN"

/-- `ServiceCluster`. The choice columns are text: their declared choices bind forms and
serializers, not the column. -/
structure ServiceCluster (T : Type) where
  pk : ℕ
  name : String
  serviceType : T
  serviceId : Option String
  outlierDetectionEnabled : Bool := true
  outlierDetectionConsecutive5xx : ℕ := 5
  outlierDetectionIntervalSeconds : ℕ := 10
  outlierDetectionBaseEjectionTimeSeconds : ℕ := 30
  outlierDetectionMaxEjectionPercent : ℕ := 100
  outlierDetectionSplitExternalLocalOriginErrors : Bool := true
  outlierDetectionConsecutiveLocalOriginFailure : ℕ := 0
  healthChecksEnabled : Bool := true
  healthCheckTimeoutSeconds : ℕ := 5
  healthCheckIntervalSeconds : ℕ := 30
  healthCheckUnhealthyThreshold : ℕ := 3
  healthCheckHealthyThreshold : ℕ := 3
  healthyPanicThreshold : ℕ := 0
  authType : String := "JWT"
  upstreamHostname : String := ""
  dnsDiscoveryType : String := "STRICT_DNS"
  dnsLookupFamily : String := "ALL"
  deriving DecidableEq, Repr

/-- The value of `auth_type` is one of the declared choices. -/
def ServiceCluster.AuthTypeDeclared {T : Type} (c : ServiceCluster T) : Prop :=
  ∃ choice : ServiceAuthType, c.authType = choice.value

/-- `ServiceNode`. -/
structure ServiceNode where
  pk : ℕ
  name : String
  serviceCluster : ℕ
  address : String
  tags : String := ""
  deriving DecidableEq, Repr

/-- `ServiceNode.tags_list`. -/
def ServiceNode.tagsList (n : ServiceNode) : List String :=
  if n.tags = "" then [] else (Text.split ',' n.tags).map Text.strip

/-- `HTTPPort`. -/
structure HTTPPort where
  pk : ℕ
  name : String
  number : ℤ
  useHttps : Bool := true
  isApiPort : Bool := false
  envoyListenerName : String := ""
  deriving DecidableEq, Repr

/-- The model class of a route row, with the columns its own table adds. -/
inductive RouteKind where
  | route
  | additionalRoute
  | serviceAPIRoute (apiSlug : String)
  | uiPluginRoute (uiPluginPath : String)
  deriving DecidableEq, Repr

/-- `Route` and its subclasses `AdditionalRoute`, `ServiceAPIRoute` and `UIPluginRoute`. -/
structure Route (C : Type) where
  pk : ℕ
  name : String
  kind : RouteKind := .route
  httpPort : ℕ
  serviceCluster : C
  servicePort : ℤ
  isServiceHttps : Bool
  servicePath : String
  gatewayPath : String
  enableGatewayAuth : Bool := true
  enableMtls : Bool := false
  isInternalRoute : Bool := false
  rejectFailedBasicAuth : Bool := false
  envoyClusterName : String := ""
  order : ℤ := 50
  nodeTags : String := ""
  requestTimeoutSeconds : Option ℕ := none
  idleTimeoutSeconds : Option ℕ := none
  deriving DecidableEq, Repr

/-- A route whose foreign keys are followed to the cluster and its service type. -/
abbrev RouteInstance := Route (ServiceCluster ServiceType)

namespace Route

variable {C : Type}

/-- `Route.is_internal_route_string`. -/
def isInternalRouteString (r : Route C) : String :=
  if r.isInternalRoute then "t" else "f"

/-- `Route.reject_failed_basic_auth_string`. -/
def rejectFailedBasicAuthString (r : Route C) : String :=
  if r.rejectFailedBasicAuth then "t" else "f"

/-- `Route.node_tags_list`. -/
def nodeTagsList (r : Route C) : List String :=
  if r.nodeTags = "" then [] else (Text.split ',' r.nodeTags).map Text.strip

/-- `Route.is_eda_service`. -/
def isEdaService (r : RouteInstance) : Bool :=
  r.serviceCluster.serviceType.isEdaService

/-- A route without tags has no tag list, and only such a route. -/
theorem nodeTagsList_eq_nil_iff {r : Route C} : r.nodeTagsList = [] ↔ r.nodeTags = "" := by
  unfold nodeTagsList
  split
  · simp_all
  · simp_all [Text.split_ne_nil]

/-- A tag never contains the separator of the tag list. -/
theorem comma_notMem_of_mem_nodeTagsList {r : Route C} {tag : String}
    (h : tag ∈ r.nodeTagsList) : ',' ∉ tag.toList := by
  unfold nodeTagsList at h
  split at h
  · exact absurd h List.not_mem_nil
  · obtain ⟨piece, hpiece, rfl⟩ := List.mem_map.mp h
    exact fun hc => Text.not_mem_of_mem_split hpiece (Text.mem_of_mem_strip hc)

end Route

/-- `CACertificate`. -/
structure CACertificate where
  pk : ℕ
  name : String
  pemData : String
  deriving DecidableEq, Repr

/-- The preferences of the `proxy` section that the modelled code reads. -/
structure Preferences where
  gatewayTokenName : String := "X-DAB-JW-TOKEN"
  requestTimeout : ℤ := 30
  idleTimeout : ℤ := 15
  deriving DecidableEq, Repr

end AapGateway
