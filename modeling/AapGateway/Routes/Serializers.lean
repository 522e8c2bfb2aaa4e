import AapGateway.Models.Database

/-!
# Route and port serializers

The serializers of the route and HTTP port resources: which fields a payload may set, what is
checked and in which order, and the errors a rejected payload gets. A payload is a record of
optional fields; an absent field is absent from the validated data too, and takes the model's
default when an object is created or keeps the stored value when one is updated.

Checks that are generated from the declarations of the models (ranges, lengths, uniqueness) only
reject and are left out, except that a required field has to be present and a related row has to
exist. The checks of the serializers' base classes belong to another package and are parameters:
they read the payload and the instance, and report errors.

## Main definitions

* `RouteAttrs` and `PortAttrs`: the fields of a payload;
* `BaseRouteSerializer.validate`: the checks the two route serializers share;
* `RouteResource.runValidation` and `HTTPPortSerializer.runValidation`: all checks of a request;
* `RouteAttrs.assign` and `RouteResource.newRoute`: what a validated payload does to an instance.

## Main results

* `runValidation_ok`: what an accepted route payload has passed.
-/

namespace AapGateway.Routes

/-- One error of a rejected payload: the field it is about, its text and its code. -/
structure FieldError where
  field : String
  message : String
  code : String
  deriving DecidableEq, Repr

/-- The fields of a route payload. -/
structure RouteAttrs where
  name : Option String := none
  requestTimeoutSeconds : Option (Option ℕ) := none
  idleTimeoutSeconds : Option (Option ℕ) := none
  httpPort : Option ℕ := none
  serviceCluster : Option ℕ := none
  servicePort : Option ℤ := none
  isServiceHttps : Option Bool := none
  isInternalRoute : Option Bool := none
  rejectFailedBasicAuth : Option Bool := none
  servicePath : Option String := none
  gatewayPath : Option String := none
  apiSlug : Option String := none
  enableGatewayAuth : Option Bool := none
  order : Option ℤ := none
  nodeTags : Option String := none
  enableMtls : Option Bool := none
  deriving DecidableEq, Repr

/-- The fields of an HTTP port payload. -/
structure PortAttrs where
  name : Option String := none
  number : Option ℤ := none
  useHttps : Option Bool := none
  isApiPort : Option Bool := none
  deriving DecidableEq, Repr

/-- The two route resources that are written through `BaseRouteSerializer`. -/
inductive RouteResource where
  | additionalRoute
  | serviceAPIRoute
  deriving DecidableEq, Repr

/-- The checks of the serializers' base classes (`super().validate`) and the id of the gateway
service. -/
structure SerializerEnv where
  serviceId : String
  routeChecks : Option (Route ℕ) → RouteAttrs → List FieldError
  portChecks : Option HTTPPort → PortAttrs → List FieldError

/-- `remove_multiple_slashes_from_path`. -/
def removeMultipleSlashesFromPath (path : String) : String :=
  String.ofList (path.toList.destutter fun a b => ¬(a = '/' ∧ b = '/'))

/-- `normalize_comma_separated_list`. -/
def normalizeCommaSeparatedList (value : String) : String :=
  if value = "" then ""
  else
    let cleaned := ((Text.split ',' value).map Text.strip).filter (· ≠ "")
    Text.join ',' cleaned.eraseDups

/-- Consecutive slashes are collapsed. -/
example : removeMultipleSlashesFromPath "///api////service/" = "/api/service/" := by
  decide +kernel

/-- Duplicate and empty tags are dropped, and the order of the others is kept. -/
example : normalizeCommaSeparatedList "b, a ,, b" = "b,a" := by
  decide +kernel

/-- A field that has to be present unless the update is partial. -/
def requiredField {α : Type} (isPartial : Bool) (field : String) (value : Option α) :
    List FieldError :=
  if isPartial || value.isSome then []
  else [⟨field, "This field is required.", "required"⟩]

/-- A primary key field: the key has to be the key of a row. -/
def relatedField {α : Type} (isPartial : Bool) (field : String) (value : Option ℕ)
    (lookup : ℕ → Option α) (check : α → List FieldError) : List FieldError :=
  match value with
  | none => requiredField isPartial field value
  | some pk =>
    match lookup pk with
    | none =>
      [⟨field, "Invalid pk \"" ++ pk.repr ++ "\" - object does not exist.", "does_not_exist"⟩]
    | some row => check row

namespace BaseRouteSerializer

/-- `_validate_gateway_auth_if_internal_route`. -/
def validateGatewayAuthIfInternalRoute (enableGatewayAuth isInternalRoute : Option Bool) :
    List FieldError :=
  if enableGatewayAuth.getD false = false ∧ isInternalRoute.getD false = true then
    [⟨"is_internal_route", "Internal routes require gateway auth to be enabled", "required"⟩]
  else []

/-- `_validate_gateway_auth_if_mtls_enabled`. -/
def validateGatewayAuthIfMtlsEnabled (enableGatewayAuth enableMtls : Option Bool) :
    List FieldError :=
  if enableMtls.getD false = true ∧ enableGatewayAuth.getD false = true then
    [⟨"enable_mtls", "Mutual TLS can only be enabled when gateway auth is disabled", "invalid"⟩]
  else []

/-- The floor a timeout of a route may not go below: the global setting `prefName`. -/
def validateTimeout (field prefName : String) (floor : ℤ) (seconds : Option ℕ) :
    List FieldError :=
  match seconds with
  | none => []
  | some value =>
    if (value : ℤ) < floor then
      [⟨field, "Value must be greater than or equal to the global " ++ prefName ++ " setting (" ++
          floor.repr ++ " seconds).", "invalid"⟩]
    else []

/-- `_validate_request_timeout_seconds`. -/
def validateRequestTimeoutSeconds (p : Preferences) (seconds : Option ℕ) : List FieldError :=
  validateTimeout "request_timeout_seconds" "request_timeout" p.requestTimeout seconds

/-- `_validate_idle_timeout_seconds`. -/
def validateIdleTimeoutSeconds (p : Preferences) (seconds : Option ℕ) : List FieldError :=
  validateTimeout "idle_timeout_seconds" "idle_timeout" p.idleTimeout seconds

/-- The two checks on the authentication flags. An update merges the payload with the instance;
a create sees the payload alone, and an absent flag reads `None`, or `False` for
`enable_mtls`. -/
def authFlagErrors (inst : Option (Route ℕ)) (attrs : RouteAttrs) : List FieldError :=
  match inst with
  | some r =>
    let enableGatewayAuth := attrs.enableGatewayAuth.getD r.enableGatewayAuth
    let isInternalRoute := attrs.isInternalRoute.getD r.isInternalRoute
    let enableMtls := attrs.enableMtls.getD r.enableMtls
    validateGatewayAuthIfInternalRoute (some enableGatewayAuth) (some isInternalRoute) ++
      validateGatewayAuthIfMtlsEnabled (some enableGatewayAuth) (some enableMtls)
  | none =>
    validateGatewayAuthIfInternalRoute attrs.enableGatewayAuth attrs.isInternalRoute ++
      validateGatewayAuthIfMtlsEnabled attrs.enableGatewayAuth
        (some (attrs.enableMtls.getD false))

/-- The two checks on the timeouts, with the same merge. -/
def timeoutErrors (p : Preferences) (inst : Option (Route ℕ)) (attrs : RouteAttrs) :
    List FieldError :=
  match inst with
  | some r =>
    validateRequestTimeoutSeconds p (attrs.requestTimeoutSeconds.getD r.requestTimeoutSeconds) ++
      validateIdleTimeoutSeconds p (attrs.idleTimeoutSeconds.getD r.idleTimeoutSeconds)
  | none =>
    validateRequestTimeoutSeconds p (attrs.requestTimeoutSeconds.getD none) ++
      validateIdleTimeoutSeconds p (attrs.idleTimeoutSeconds.getD none)

/-- `BaseRouteSerializer.validate`. -/
def validate (env : SerializerEnv) (p : Preferences) (inst : Option (Route ℕ))
    (attrs : RouteAttrs) : Except (List FieldError) RouteAttrs :=
  let inherited := env.routeChecks inst attrs
  if inherited ≠ [] then .error inherited
  else
    let errors := authFlagErrors inst attrs ++ timeoutErrors p inst attrs
    if errors ≠ [] then .error errors
    else .ok { attrs with gatewayPath := attrs.gatewayPath.map removeMultipleSlashesFromPath }

/-- An accepted payload has passed the checks on the authentication flags, and only its path may
have been rewritten. -/
theorem validate_ok {env : SerializerEnv} {p : Preferences} {inst : Option (Route ℕ)}
    {attrs attrs' : RouteAttrs} (h : validate env p inst attrs = .ok attrs') :
    authFlagErrors inst attrs = [] ∧
      attrs' = { attrs with
        gatewayPath := attrs.gatewayPath.map removeMultipleSlashesFromPath } := by
  unfold validate at h
  dsimp only at h
  split at h
  · cases h
  · split at h
    · cases h
    · rename_i herrors
      cases h
      have hnil := not_not.mp herrors
      exact ⟨(List.append_eq_nil_iff.mp hnil).1, rfl⟩

end BaseRouteSerializer

/-- The path begins with a prefix that is reserved on the API port. -/
def reservedPath (path : String) : Bool :=
  Text.startsWith path apiPrefix || Text.startsWith path pluginPrefix

/-- `AdditionalRouteSerializer.validate`. The prefix check needs both the port and the path in the
payload. -/
def AdditionalRouteSerializer.validate (env : SerializerEnv) (t : Tables)
    (inst : Option (Route ℕ)) (attrs : RouteAttrs) : Except (List FieldError) RouteAttrs := do
  let attrs ← BaseRouteSerializer.validate env t.preferences inst attrs
  let port := attrs.httpPort.bind fun pk => t.httpPorts.find? (·.pk = pk)
  let path := attrs.gatewayPath.getD ""
  if port.any HTTPPort.isApiPort ∧ path ≠ "" ∧ reservedPath path = true then
    .error [⟨"gateway_path", gatewayPathPrefixErrorMessage, "required"⟩]
  else
    return attrs

namespace RouteResource

/-- The fields of a payload that the serializer of a resource writes. The paths of an API route
are read-only, and an additional route has neither a slug nor an order. -/
def writable (s : RouteResource) (payload : RouteAttrs) : RouteAttrs :=
  match s with
  | .additionalRoute => { payload with apiSlug := none, order := none }
  | .serviceAPIRoute => { payload with gatewayPath := none }

/-- The validated data of an accepted payload: the fields the serializer writes, with tags and
path in normal form. -/
def validated (s : RouteResource) (payload : RouteAttrs) : RouteAttrs :=
  { s.writable payload with
    nodeTags := (s.writable payload).nodeTags.map normalizeCommaSeparatedList
    gatewayPath := (s.writable payload).gatewayPath.map removeMultipleSlashesFromPath }

/-- `ServiceAPIRouteSerializer.validate_http_port`; an additional route takes any port. -/
def validateHttpPort (s : RouteResource) (port : HTTPPort) : List FieldError :=
  match s with
  | .additionalRoute => []
  | .serviceAPIRoute =>
    if port.isApiPort then []
    else [⟨"http_port", "An API HTTP port must be used with API routes", "invalid"⟩]

/-- The errors of the single fields, in the order the serializer declares them. -/
def fieldErrors (s : RouteResource) (t : Tables) (isPartial : Bool) (attrs : RouteAttrs) :
    List FieldError :=
  requiredField isPartial "name" attrs.name ++
    relatedField isPartial "http_port" attrs.httpPort
      (fun pk => t.httpPorts.find? (·.pk = pk)) s.validateHttpPort ++
    relatedField isPartial "service_cluster" attrs.serviceCluster
      (fun pk => t.serviceClusters.find? (·.pk = pk)) (fun _ => []) ++
    requiredField isPartial "service_port" attrs.servicePort ++
    requiredField isPartial "is_service_https" attrs.isServiceHttps ++
    requiredField isPartial "service_path" attrs.servicePath ++
    match s with
    | .additionalRoute => requiredField isPartial "gateway_path" attrs.gatewayPath
    | .serviceAPIRoute => requiredField isPartial "api_slug" attrs.apiSlug

/-- `serializer.run_validation`: the single fields, then `validate`. `inst` is the object an
update is about. -/
def runValidation (s : RouteResource) (env : SerializerEnv) (t : Tables)
    (inst : Option (Route ℕ)) (isPartial : Bool) (payload : RouteAttrs) :
    Except (List FieldError) RouteAttrs :=
  let attrs := s.writable payload
  let errors := s.fieldErrors t isPartial attrs
  if errors ≠ [] then .error errors
  else
    -- `validate_node_tags` runs with the field.
    let attrs := { attrs with nodeTags := attrs.nodeTags.map normalizeCommaSeparatedList }
    match s with
    | .additionalRoute => AdditionalRouteSerializer.validate env t inst attrs
    | .serviceAPIRoute => BaseRouteSerializer.validate env t.preferences inst attrs

end RouteResource

/-- An accepted additional route has been accepted by the shared checks. -/
theorem AdditionalRouteSerializer.validate_ok {env : SerializerEnv} {t : Tables}
    {inst : Option (Route ℕ)} {attrs attrs' : RouteAttrs}
    (h : validate env t inst attrs = .ok attrs') :
    BaseRouteSerializer.validate env t.preferences inst attrs = .ok attrs' := by
  unfold validate at h
  cases hbase : BaseRouteSerializer.validate env t.preferences inst attrs with
  | error e => rw [hbase] at h; cases h
  | ok base =>
      rw [hbase] at h
      simp only [bind, Except.bind] at h
      split at h
      · cases h
      · exact h

/-- The checks on the authentication flags read no field that validation rewrites. -/
@[simp]
theorem RouteResource.authFlagErrors_validated (s : RouteResource) (inst : Option (Route ℕ))
    (payload : RouteAttrs) :
    BaseRouteSerializer.authFlagErrors inst (s.validated payload) =
      BaseRouteSerializer.authFlagErrors inst payload := by
  cases s <;> rfl

/-- An accepted payload has passed the checks on the authentication flags, and yields its
validated data. -/
theorem RouteResource.runValidation_ok {s : RouteResource} {env : SerializerEnv} {t : Tables}
    {inst : Option (Route ℕ)} {isPartial : Bool} {payload attrs : RouteAttrs}
    (h : s.runValidation env t inst isPartial payload = .ok attrs) :
    BaseRouteSerializer.authFlagErrors inst payload = [] ∧ attrs = s.validated payload := by
  unfold runValidation at h
  dsimp only at h
  split at h
  · cases h
  · cases s with
    | additionalRoute =>
        obtain ⟨hflags, rfl⟩ := BaseRouteSerializer.validate_ok
          (AdditionalRouteSerializer.validate_ok h)
        exact ⟨hflags, rfl⟩
    | serviceAPIRoute =>
        obtain ⟨hflags, rfl⟩ := BaseRouteSerializer.validate_ok h
        exact ⟨hflags, rfl⟩

/-- What a validated payload sets on an instance: every field that is present. -/
def RouteAttrs.assign (a : RouteAttrs) (r : Route ℕ) : Route ℕ :=
  { r with
    name := a.name.getD r.name
    kind :=
      match r.kind, a.apiSlug with
      | .serviceAPIRoute _, some apiSlug => .serviceAPIRoute apiSlug
      | kind, _ => kind
    httpPort := a.httpPort.getD r.httpPort
    serviceCluster := a.serviceCluster.getD r.serviceCluster
    servicePort := a.servicePort.getD r.servicePort
    isServiceHttps := a.isServiceHttps.getD r.isServiceHttps
    servicePath := a.servicePath.getD r.servicePath
    gatewayPath := a.gatewayPath.getD r.gatewayPath
    enableGatewayAuth := a.enableGatewayAuth.getD r.enableGatewayAuth
    enableMtls := a.enableMtls.getD r.enableMtls
    isInternalRoute := a.isInternalRoute.getD r.isInternalRoute
    rejectFailedBasicAuth := a.rejectFailedBasicAuth.getD r.rejectFailedBasicAuth
    order := a.order.getD r.order
    nodeTags := a.nodeTags.getD r.nodeTags
    requestTimeoutSeconds := a.requestTimeoutSeconds.getD r.requestTimeoutSeconds
    idleTimeoutSeconds := a.idleTimeoutSeconds.getD r.idleTimeoutSeconds }

namespace RouteResource

/-- The class of a resource's rows, with the slug of an API route. -/
def newKind (s : RouteResource) (attrs : RouteAttrs) : Option RouteKind :=
  match s with
  | .additionalRoute => some .additionalRoute
  | .serviceAPIRoute => attrs.apiSlug.map RouteKind.serviceAPIRoute

/-- The object a create makes of the validated data: the model's defaults, then the fields that
are present. It cannot be stored when a column without a default is missing. -/
def newRoute (s : RouteResource) (pk : ℕ) (attrs : RouteAttrs) : Option (Route ℕ) := do
  let name ← attrs.name
  let kind ← s.newKind attrs
  let httpPort ← attrs.httpPort
  let serviceCluster ← attrs.serviceCluster
  let servicePort ← attrs.servicePort
  let isServiceHttps ← attrs.isServiceHttps
  let servicePath ← attrs.servicePath
  return attrs.assign
    { pk, name, kind, httpPort, serviceCluster, servicePort, isServiceHttps, servicePath
      gatewayPath := "" }

/-- The rows that belong to a resource. -/
def owns (s : RouteResource) (r : Route ℕ) : Bool :=
  match s, r.kind with
  | .additionalRoute, .additionalRoute => true
  | .serviceAPIRoute, .serviceAPIRoute _ => true
  | _, _ => false

end RouteResource

namespace HTTPPortSerializer

/-- `HTTPPortSerializer.validate_is_api_port`, for a payload that holds the field. -/
def validateIsApiPort (inst : Option HTTPPort) (value : Bool) : List FieldError :=
  if inst.any HTTPPort.isApiPort ∧ value = false then
    [⟨"is_api_port", "The API port cannot be changed to a non-API port", "invalid"⟩]
  else []

/-- `serializer.run_validation` of a port payload. -/
def runValidation (env : SerializerEnv) (inst : Option HTTPPort) (isPartial : Bool)
    (attrs : PortAttrs) : Except (List FieldError) PortAttrs :=
  let errors :=
    requiredField isPartial "name" attrs.name ++ requiredField isPartial "number" attrs.number ++
      (attrs.isApiPort.map (validateIsApiPort inst)).getD []
  if errors ≠ [] then .error errors
  else
    let inherited := env.portChecks inst attrs
    if inherited ≠ [] then .error inherited else .ok attrs

/-- An accepted port payload is taken as it is, and it does not clear the API flag. -/
theorem runValidation_ok {env : SerializerEnv} {inst : Option HTTPPort} {isPartial : Bool}
    {payload attrs : PortAttrs} (h : runValidation env inst isPartial payload = .ok attrs) :
    attrs = payload ∧ (payload.isApiPort = some false → inst.any HTTPPort.isApiPort = false) := by
  unfold runValidation at h
  dsimp only at h
  split at h
  · cases h
  · rename_i herrors
    split at h
    · cases h
    · cases h
      refine ⟨rfl, ?_⟩
      intro hclear
      have hnil := (List.append_eq_nil_iff.mp (not_not.mp herrors)).2
      rw [hclear] at hnil
      by_contra hapi
      have hchecked : validateIsApiPort inst false ≠ [] := by
        unfold validateIsApiPort
        rw [if_pos ⟨by simpa using hapi, rfl⟩]
        exact List.cons_ne_nil _ _
      exact hchecked hnil

end HTTPPortSerializer

/-- What a validated payload sets on a port. -/
def PortAttrs.assign (a : PortAttrs) (p : HTTPPort) : HTTPPort :=
  { p with
    name := a.name.getD p.name
    number := a.number.getD p.number
    useHttps := a.useHttps.getD p.useHttps
    isApiPort := a.isApiPort.getD p.isApiPort }

/-- The port a create makes of the validated data. -/
def PortAttrs.newPort (a : PortAttrs) (pk : ℕ) : Option HTTPPort := do
  let name ← a.name
  let number ← a.number
  return a.assign { pk, name, number }

/-- A new port has the key it was given. -/
theorem newPort_pk {a : PortAttrs} {pk : ℕ} {p : HTTPPort} (h : a.newPort pk = some p) :
    p.pk = pk := by
  unfold PortAttrs.newPort at h
  simp only [Option.bind_eq_bind, Option.bind_eq_some_iff, Option.pure_def,
    Option.some.injEq] at h
  obtain ⟨name, -, number, -, rfl⟩ := h
  rfl

end AapGateway.Routes
