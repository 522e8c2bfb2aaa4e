import AapGateway.Routes.PluginPaths
import AapGateway.Routes.OneServiceRoute

/-!
# Requests to all service resources

The viewsets of service types, service clusters and service nodes, next to those of routes, ports
and UI plugins. They are model viewsets of one shape: an update or a delete finds the object, asks
`object_write_unsafe` whether a proxied request may write it, and then saves or deletes; a create
has no object, so nothing is asked.

The rows a viewset finds, the checks of its serializer and what a payload sets are its parameters.

## Main definitions

* `ViewSet` and `ViewSet.perform`: a viewset, and what it does with a request;
* `serviceTypeViewSet`, `serviceClusterViewSet` and `serviceNodeViewSet`: the three of them;
* `ServiceRequest` and `ServiceRequest.perform`: the requests that write a service resource;
* `ServiceRequest.Proxied`: the request came through the proxy.

## Main results

* `ViewSet.effect_of_perform`: what an accepted request of a viewset does to the tables.
-/

namespace AapGateway

/-- `DefaultServiceType.is_default`. -/
def DefaultServiceType.isDefault (name : String) : Bool :=
  [gateway, controller, eda, hub, metrics].any fun svc => svc.value = name

namespace Routes

/-- The fields of the payload of a service type. -/
structure ServiceTypeAttrs where
  name : Option String := none
  loginPath : Option (Option String) := none
  logoutPath : Option (Option String) := none
  pingUrl : Option (Option String) := none
  serviceIndexPath : Option (Option String) := none
  deriving DecidableEq, Repr

/-- The fields of the payload of a service cluster. Its service id is read-only. -/
structure ServiceClusterAttrs where
  name : Option String := none
  serviceType : Option ℕ := none
  authType : Option String := none
  upstreamHostname : Option String := none
  dnsDiscoveryType : Option String := none
  dnsLookupFamily : Option String := none
  outlierDetectionEnabled : Option Bool := none
  outlierDetectionConsecutive5xx : Option ℕ := none
  outlierDetectionIntervalSeconds : Option ℕ := none
  outlierDetectionBaseEjectionTimeSeconds : Option ℕ := none
  outlierDetectionMaxEjectionPercent : Option ℕ := none
  outlierDetectionSplitExternalLocalOriginErrors : Option Bool := none
  outlierDetectionConsecutiveLocalOriginFailure : Option ℕ := none
  healthChecksEnabled : Option Bool := none
  healthCheckTimeoutSeconds : Option ℕ := none
  healthCheckIntervalSeconds : Option ℕ := none
  healthCheckUnhealthyThreshold : Option ℕ := none
  healthCheckHealthyThreshold : Option ℕ := none
  healthyPanicThreshold : Option ℕ := none
  deriving DecidableEq, Repr

/-- The fields of the payload of a service node. -/
structure ServiceNodeAttrs where
  name : Option String := none
  address : Option String := none
  serviceCluster : Option ℕ := none
  tags : Option String := none
  deriving DecidableEq, Repr

/-- The checks of the serializers' base classes. -/
structure ServiceEnv extends PluginEnv where
  serviceTypeChecks : Option ServiceType → ServiceTypeAttrs → List FieldError
  serviceClusterChecks : Option (ServiceCluster ℕ) → ServiceClusterAttrs → List FieldError
  serviceNodeChecks : Option ServiceNode → ServiceNodeAttrs → List FieldError

/-- A request to a model viewset that writes. -/
inductive RowRequest (Payload : Type) where
  | create (pk : ℕ) (payload : Payload)
  | update (isPartial fromProxy : Bool) (pk : ℕ) (payload : Payload)
  | destroy (fromProxy : Bool) (pk : ℕ)
  deriving DecidableEq, Repr

/-- A model viewset that refuses some writes of proxied requests. -/
structure ViewSet (Row Payload : Type) where
  /-- `queryset`. -/
  queryset : Tables → List Row
  /-- The primary key. -/
  key : Row → ℕ
  /-- `object_write_unsafe`. -/
  objectWriteUnsafe : Tables → Row → Bool
  /-- `serializer.run_validation`: the validated data. -/
  runValidation : Tables → Option Row → Bool → Payload → Except (List FieldError) Payload
  /-- The object a create makes of the validated data, if no required column is missing. -/
  newRow : ℕ → Payload → Option Row
  /-- What validated data sets on an object. -/
  assign : Payload → Row → Row
  /-- The object, as it is saved. -/
  object : Row → Object
  /-- The object, as it is deleted. -/
  target : ℕ → Target

namespace ViewSet

variable {Row Payload : Type} (v : ViewSet Row Payload)

/-- `get_object`, with the permission check of `DisallowWriteFromProxy`. -/
def getObject (t : Tables) (fromProxy : Bool) (pk : ℕ) : Except RequestError Row :=
  match (v.queryset t).find? (v.key · = pk) with
  | none => .error .notFound
  | some row => do
    disallowWriteFromProxy fromProxy (v.objectWriteUnsafe t row)
    return row

/-- `create`. -/
def create (serviceId : String) (db : Database) (pk : ℕ) (payload : Payload) :
    Except RequestError Database :=
  match v.runValidation db.toTables none false payload with
  | .error errors => .error (.invalid errors)
  | .ok attrs =>
    match v.newRow pk attrs with
    | none => .error (.save .integrity) -- A required column would be null.
    | some row =>
      if pk ∈ (v.queryset db.toTables).map v.key then .error (.save .integrity)
      else (db.save serviceId (v.object row)).mapError .save

/-- `update` and `partial_update`. -/
def update (serviceId : String) (db : Database) (isPartial fromProxy : Bool) (pk : ℕ)
    (payload : Payload) : Except RequestError Database :=
  match v.getObject db.toTables fromProxy pk with
  | .error e => .error e
  | .ok row =>
    match v.runValidation db.toTables (some row) isPartial payload with
    | .error errors => .error (.invalid errors)
    | .ok attrs => (db.save serviceId (v.object (v.assign attrs row))).mapError .save

/-- `destroy`. -/
def destroy (db : Database) (fromProxy : Bool) (pk : ℕ) : Except RequestError Database :=
  match v.getObject db.toTables fromProxy pk with
  | .error e => .error e
  | .ok _ => (db.delete (v.target pk)).mapError .save

/-- What a viewset does with a request. -/
def perform (serviceId : String) (db : Database) :
    RowRequest Payload → Except RequestError Database
  | .create pk payload => v.create serviceId db pk payload
  | .update isPartial fromProxy pk payload => v.update serviceId db isPartial fromProxy pk payload
  | .destroy fromProxy pk => v.destroy db fromProxy pk

end ViewSet

/-- The rest of a serializer: the errors of its fields, then those of the base classes. -/
def checked {Payload : Type} (errors inherited : List FieldError) (validated : Payload) :
    Except (List FieldError) Payload :=
  if errors ≠ [] then .error errors
  else if inherited ≠ [] then .error inherited
  else .ok validated

/-- What a validated payload sets on a service type. -/
def ServiceTypeAttrs.assign (a : ServiceTypeAttrs) (s : ServiceType) : ServiceType :=
  { s with
    name := a.name.getD s.name
    loginPath := a.loginPath.getD s.loginPath
    logoutPath := a.logoutPath.getD s.logoutPath
    pingUrl := a.pingUrl.getD s.pingUrl
    serviceIndexPath := a.serviceIndexPath.getD s.serviceIndexPath }

/-- What a validated payload sets on a service cluster. -/
def ServiceClusterAttrs.assign (a : ServiceClusterAttrs) (c : ServiceCluster ℕ) :
    ServiceCluster ℕ :=
  { c with
    name := a.name.getD c.name
    serviceType := a.serviceType.getD c.serviceType
    authType := a.authType.getD c.authType
    upstreamHostname := a.upstreamHostname.getD c.upstreamHostname
    dnsDiscoveryType := a.dnsDiscoveryType.getD c.dnsDiscoveryType
    dnsLookupFamily := a.dnsLookupFamily.getD c.dnsLookupFamily
    outlierDetectionEnabled := a.outlierDetectionEnabled.getD c.outlierDetectionEnabled
    outlierDetectionConsecutive5xx :=
      a.outlierDetectionConsecutive5xx.getD c.outlierDetectionConsecutive5xx
    outlierDetectionIntervalSeconds :=
      a.outlierDetectionIntervalSeconds.getD c.outlierDetectionIntervalSeconds
    outlierDetectionBaseEjectionTimeSeconds :=
      a.outlierDetectionBaseEjectionTimeSeconds.getD c.outlierDetectionBaseEjectionTimeSeconds
    outlierDetectionMaxEjectionPercent :=
      a.outlierDetectionMaxEjectionPercent.getD c.outlierDetectionMaxEjectionPercent
    outlierDetectionSplitExternalLocalOriginErrors :=
      a.outlierDetectionSplitExternalLocalOriginErrors.getD
        c.outlierDetectionSplitExternalLocalOriginErrors
    outlierDetectionConsecutiveLocalOriginFailure :=
      a.outlierDetectionConsecutiveLocalOriginFailure.getD
        c.outlierDetectionConsecutiveLocalOriginFailure
    healthChecksEnabled := a.healthChecksEnabled.getD c.healthChecksEnabled
    healthCheckTimeoutSeconds := a.healthCheckTimeoutSeconds.getD c.healthCheckTimeoutSeconds
    healthCheckIntervalSeconds := a.healthCheckIntervalSeconds.getD c.healthCheckIntervalSeconds
    healthCheckUnhealthyThreshold :=
      a.healthCheckUnhealthyThreshold.getD c.healthCheckUnhealthyThreshold
    healthCheckHealthyThreshold :=
      a.healthCheckHealthyThreshold.getD c.healthCheckHealthyThreshold
    healthyPanicThreshold := a.healthyPanicThreshold.getD c.healthyPanicThreshold }

/-- What a validated payload sets on a service node. -/
def ServiceNodeAttrs.assign (a : ServiceNodeAttrs) (n : ServiceNode) : ServiceNode :=
  { n with
    name := a.name.getD n.name
    address := a.address.getD n.address
    serviceCluster := a.serviceCluster.getD n.serviceCluster
    tags := a.tags.getD n.tags }

/-- `ServiceTypeSerializer`. -/
def ServiceTypeSerializer.runValidation (env : ServiceEnv) (_ : Tables)
    (inst : Option ServiceType) (isPartial : Bool) (payload : ServiceTypeAttrs) :
    Except (List FieldError) ServiceTypeAttrs :=
  checked (requiredField isPartial "name" payload.name) (env.serviceTypeChecks inst payload)
    payload

/-- `ServiceClusterSerializer`. -/
def ServiceClusterSerializer.runValidation (env : ServiceEnv) (t : Tables)
    (inst : Option (ServiceCluster ℕ)) (isPartial : Bool) (payload : ServiceClusterAttrs) :
    Except (List FieldError) ServiceClusterAttrs :=
  checked
    (requiredField isPartial "name" payload.name ++
      relatedField isPartial "service_type" payload.serviceType
        (fun pk => t.serviceTypes.find? (·.pk = pk)) (fun _ => []))
    (env.serviceClusterChecks inst payload) payload

/-- `ServiceNodeSerializer`, with `validate_tags`. -/
def ServiceNodeSerializer.runValidation (env : ServiceEnv) (t : Tables)
    (inst : Option ServiceNode) (isPartial : Bool) (payload : ServiceNodeAttrs) :
    Except (List FieldError) ServiceNodeAttrs :=
  let attrs := { payload with tags := payload.tags.map normalizeCommaSeparatedList }
  checked
    (requiredField isPartial "name" payload.name ++
      requiredField isPartial "address" payload.address ++
      relatedField isPartial "service_cluster" payload.serviceCluster
        (fun pk => t.serviceClusters.find? (·.pk = pk)) (fun _ => []))
    (env.serviceNodeChecks inst attrs) attrs

/-- `ServiceTypeViewSet`: the default service types may not be written through the proxy. -/
def serviceTypeViewSet (env : ServiceEnv) : ViewSet ServiceType ServiceTypeAttrs where
  queryset := Tables.serviceTypes
  key := ServiceType.pk
  objectWriteUnsafe _ s := DefaultServiceType.isDefault s.name
  runValidation := ServiceTypeSerializer.runValidation env
  newRow pk attrs := attrs.name.map fun name => attrs.assign ⟨pk, name, none, none, none, none⟩
  assign := ServiceTypeAttrs.assign
  object := .serviceType
  target := .serviceType

/-- `ServiceClusterViewSet`: nor may the clusters of these types. -/
def serviceClusterViewSet (env : ServiceEnv) :
    ViewSet (ServiceCluster ℕ) ServiceClusterAttrs where
  queryset := Tables.serviceClusters
  key := ServiceCluster.pk
  objectWriteUnsafe t c :=
    (t.resolveCluster c).any (DefaultServiceType.isDefault ·.serviceType.name)
  runValidation := ServiceClusterSerializer.runValidation env
  newRow pk attrs := do
    let name ← attrs.name
    let serviceType ← attrs.serviceType
    return attrs.assign { pk, name, serviceType, serviceId := none }
  assign := ServiceClusterAttrs.assign
  object := .serviceCluster
  target := .serviceCluster

/-- `ServiceNodeViewSet`: nor may the nodes of the gateway. -/
def serviceNodeViewSet (env : ServiceEnv) : ViewSet ServiceNode ServiceNodeAttrs where
  queryset := Tables.serviceNodes
  key := ServiceNode.pk
  objectWriteUnsafe t n :=
    (t.clusterByPk n.serviceCluster).any
      (·.serviceType.name = DefaultServiceType.gateway.value)
  runValidation := ServiceNodeSerializer.runValidation env
  newRow pk attrs := do
    let name ← attrs.name
    let address ← attrs.address
    let serviceCluster ← attrs.serviceCluster
    return attrs.assign { pk, name, serviceCluster, address }
  assign := ServiceNodeAttrs.assign
  object := .serviceNode
  target := .serviceNode

/-- `destroy` of `UIPluginRouteViewSet`. -/
def destroyPlugin (db : Database) (fromProxy : Bool) (pk : ℕ) : Except RequestError Database :=
  match db.routes.find? (fun r => r.pk = pk ∧ ownsPlugin r = true) with
  | none => .error .notFound
  | some r =>
    match disallowWriteFromProxy fromProxy (pluginWriteUnsafe db.toTables r) with
    | .error e => .error e
    | .ok _ => (db.delete (.route pk)).mapError .save

/-- A request that writes a service resource. -/
inductive ServiceRequest where
  | serviceType (req : RowRequest ServiceTypeAttrs)
  | serviceCluster (req : RowRequest ServiceClusterAttrs)
  | serviceNode (req : RowRequest ServiceNodeAttrs)
  | route (req : Request)
  | plugin (req : PluginRequest)
  | destroyPlugin (fromProxy : Bool) (pk : ℕ)
  deriving DecidableEq, Repr

/-- What the viewsets do with a request. -/
def ServiceRequest.perform (env : ServiceEnv) (db : Database) :
    ServiceRequest → Except RequestError Database
  | .serviceType req => (serviceTypeViewSet env).perform env.serviceId db req
  | .serviceCluster req => (serviceClusterViewSet env).perform env.serviceId db req
  | .serviceNode req => (serviceNodeViewSet env).perform env.serviceId db req
  | .route req => Routes.perform env.toSerializerEnv db req
  | .plugin req => performPlugin env.toPluginEnv db req
  | .destroyPlugin fromProxy pk => Routes.destroyPlugin db fromProxy pk

/-- `from_proxy(request)`. A create is asked nothing, so it has no flag. -/
def RowRequest.fromProxy {Payload : Type} : RowRequest Payload → Bool
  | .create _ _ => true
  | .update _ fromProxy _ _ => fromProxy
  | .destroy fromProxy _ => fromProxy

/-- The same for the requests to routes and ports. -/
def Request.fromProxy : Request → Bool
  | .createRoute _ _ _ | .createPort _ _ => true
  | .updateRoute _ _ fromProxy _ _ | .destroyRoute _ fromProxy _ => fromProxy
  | .updatePort _ fromProxy _ _ | .destroyPort fromProxy _ => fromProxy

/-- The same for the requests that store a plugin. -/
def PluginRequest.fromProxy : PluginRequest → Bool
  | .create _ _ => true
  | .update _ fromProxy _ _ => fromProxy

/-- The request came through the proxy. -/
def ServiceRequest.Proxied : ServiceRequest → Prop
  | .serviceType req => req.fromProxy = true
  | .serviceCluster req => req.fromProxy = true
  | .serviceNode req => req.fromProxy = true
  | .route req => req.fromProxy = true
  | .plugin req => req.fromProxy = true
  | .destroyPlugin fromProxy _ => fromProxy = true

/-- The effect of an accepted request of a viewset. -/
inductive ViewSet.Effect {Row Payload : Type} (v : ViewSet Row Payload) (serviceId : String)
    (db db' : Database) : RowRequest Payload → Prop
  | create {pk : ℕ} {payload attrs : Payload} {row : Row}
      (hvalid : v.runValidation db.toTables none false payload = .ok attrs)
      (hnew : v.newRow pk attrs = some row)
      (hfresh : pk ∉ (v.queryset db.toTables).map v.key)
      (hwrite : db.write serviceId (v.object row) = .ok db'.toTables) :
      Effect v serviceId db db' (.create pk payload)
  | update {isPartial fromProxy : Bool} {pk : ℕ} {payload attrs : Payload} {row : Row}
      (hmem : row ∈ v.queryset db.toTables) (hpk : v.key row = pk)
      (hsafe : fromProxy = true → v.objectWriteUnsafe db.toTables row = false)
      (hvalid : v.runValidation db.toTables (some row) isPartial payload = .ok attrs)
      (hwrite : db.write serviceId (v.object (v.assign attrs row)) = .ok db'.toTables) :
      Effect v serviceId db db' (.update isPartial fromProxy pk payload)
  | destroy {fromProxy : Bool} {pk : ℕ} {row : Row} (hmem : row ∈ v.queryset db.toTables)
      (hpk : v.key row = pk)
      (hsafe : fromProxy = true → v.objectWriteUnsafe db.toTables row = false)
      (htables : db'.toTables = db.remove (v.target pk)) :
      Effect v serviceId db db' (.destroy fromProxy pk)

section Inversion

variable {db db' : Database} {fromProxy : Bool} {pk : ℕ}

/-- A write that is let through is safe, or did not come through the proxy. -/
theorem disallowWriteFromProxy_ok {unsafeWrite : Bool} {u : Unit}
    (h : disallowWriteFromProxy fromProxy unsafeWrite = .ok u) :
    fromProxy = true → unsafeWrite = false := by
  intro hproxy
  rw [disallowWriteFromProxy, hproxy, Bool.true_and] at h
  by_contra hunsafe
  rw [Bool.not_eq_false] at hunsafe
  rw [if_pos hunsafe] at h
  cases h

namespace ViewSet

variable {Row Payload : Type} {v : ViewSet Row Payload} {serviceId : String}

/-- The object of a request is a row with its key, and a proxied request may write it. -/
theorem getObject_ok {t : Tables} {row : Row} (h : v.getObject t fromProxy pk = .ok row) :
    row ∈ v.queryset t ∧ v.key row = pk ∧
      (fromProxy = true → v.objectWriteUnsafe t row = false) := by
  rw [getObject] at h
  split at h
  · cases h
  · rename_i found hfind
    have hpk := List.find?_some hfind
    cases hproxy : disallowWriteFromProxy fromProxy (v.objectWriteUnsafe t found) with
    | error e => rw [hproxy] at h; cases h
    | ok u =>
        rw [hproxy] at h
        cases h
        exact ⟨List.mem_of_find?_eq_some hfind, of_decide_eq_true hpk,
          disallowWriteFromProxy_ok hproxy⟩

/-- What an accepted request of a viewset does to the tables. -/
theorem effect_of_perform {req : RowRequest Payload} (h : v.perform serviceId db req = .ok db') :
    v.Effect serviceId db db' req := by
  rcases req with ⟨pk, payload⟩ | ⟨isPartial, fromProxy, pk, payload⟩ | ⟨fromProxy, pk⟩
  · -- The branches of `create` in their order: validation, the object, its key, the save.
    rw [perform, create] at h
    split at h
    · cases h
    · rename_i attrs hvalid
      split at h
      · cases h
      · rename_i row hnew
        split at h
        · cases h
        · rename_i hfresh
          exact .create hvalid hnew hfresh (Database.write_of_save (ok_of_mapError h))
  · rw [perform, update] at h
    split at h
    · cases h
    · rename_i row hobject
      obtain ⟨hmem, hpk, hsafe⟩ := getObject_ok hobject
      split at h
      · cases h
      · rename_i attrs hvalid
        exact .update hmem hpk hsafe hvalid (Database.write_of_save (ok_of_mapError h))
  · rw [perform, destroy] at h
    split at h
    · cases h
    · rename_i row hobject
      obtain ⟨hmem, hpk, hsafe⟩ := getObject_ok hobject
      exact .destroy hmem hpk hsafe (Database.toTables_of_commit (ok_of_mapError h))

/-- A delete of a row that may be written is accepted, as far as the constraints allow. -/
theorem perform_destroy (serviceId : String) {row : Row}
    (hkeys : ((v.queryset db.toTables).map v.key).Nodup)
    (hmem : row ∈ v.queryset db.toTables) (hsafe : v.objectWriteUnsafe db.toTables row = false)
    (hdelete : db.delete (v.target (v.key row)) = .ok db') :
    v.perform serviceId db (.destroy true (v.key row)) = .ok db' := by
  have hobject : v.getObject db.toTables true (v.key row) = .ok row := by
    rw [getObject, Table.find?_of_mem hkeys hmem]
    simp only [hsafe]
    rfl
  rw [perform, destroy, hobject, hdelete]
  rfl

end ViewSet

end Inversion

end Routes

end AapGateway
