import AapGateway.Routes.Serializers

/-!
# Requests to the route and port resources

What the viewsets of additional routes, API routes and HTTP ports do with a request: find the
object, refuse writes that come through the proxy and would break the gateway, validate the
payload, and save or delete. A request that fails leaves the database as it was.

The primary key of a new object comes from the database's sequence and is an argument; a key that
is in use violates the constraint. Authentication and the permissions of the caller are left out:
they only refuse.

## Main definitions

* `Request` and `perform`: the requests and what the viewsets do with them;
* `Effect`: the effect of an accepted request on the tables;
* `Reached`: the databases that accepted requests lead to, when each request satisfies a
  condition on the state before it.

## Main results

* `effect_of_perform`: what an accepted request can do to the tables;
* `Reached.invariant`: a property that every accepted request keeps holds in every state reached.
-/

namespace AapGateway.Routes

/-- A request that writes a route or a port. -/
inductive Request where
  | createRoute (s : RouteResource) (pk : ℕ) (payload : RouteAttrs)
  | updateRoute (s : RouteResource) (isPartial fromProxy : Bool) (pk : ℕ) (payload : RouteAttrs)
  | destroyRoute (s : RouteResource) (fromProxy : Bool) (pk : ℕ)
  | createPort (pk : ℕ) (payload : PortAttrs)
  | updatePort (isPartial fromProxy : Bool) (pk : ℕ) (payload : PortAttrs)
  | destroyPort (fromProxy : Bool) (pk : ℕ)
  deriving DecidableEq, Repr

/-- How a request fails. -/
inductive RequestError where
  | notFound
  /-- A refusal with its text. -/
  | forbidden (detail : String)
  /-- The serializer rejects the payload. -/
  | invalid (errors : List FieldError)
  /-- The object's `save` or `delete` raises. -/
  | save (e : SaveError)
  deriving DecidableEq, Repr

/-- `ProxyDenied`. -/
def proxyDenied : RequestError :=
  .forbidden "Action not allowed from proxy"

/-- `DisallowWriteFromProxy.has_object_permission` for a request that writes. -/
def disallowWriteFromProxy (fromProxy objectWriteUnsafe : Bool) : Except RequestError Unit :=
  if fromProxy && objectWriteUnsafe then .error proxyDenied else .ok ()

namespace RouteResource

/-- `object_write_unsafe` of the viewset: the routes of the gateway's own service. The viewset of
additional routes does not restrict proxied writes. -/
def objectWriteUnsafe (s : RouteResource) (t : Tables) (r : Route ℕ) : Bool :=
  match s with
  | .additionalRoute => false
  | .serviceAPIRoute =>
    (t.clusterByPk r.serviceCluster).any
      (·.serviceType.name = DefaultServiceType.gateway.value)

/-- `get_object` of the viewset, with its permission check. -/
def getObject (s : RouteResource) (t : Tables) (fromProxy : Bool) (pk : ℕ) :
    Except RequestError (Route ℕ) :=
  match t.routes.find? (fun r => r.pk = pk ∧ s.owns r = true) with
  | none => .error .notFound
  | some r => do
    disallowWriteFromProxy fromProxy (s.objectWriteUnsafe t r)
    return r

end RouteResource

namespace HTTPPortViewSet

/-- `get_object` of the port viewset: proxied writes to the API port are refused. -/
def getObject (t : Tables) (fromProxy : Bool) (pk : ℕ) : Except RequestError HTTPPort :=
  match t.httpPorts.find? (·.pk = pk) with
  | none => .error .notFound
  | some p => do
    disallowWriteFromProxy fromProxy p.isApiPort
    return p

end HTTPPortViewSet

section Perform

variable (env : SerializerEnv)

/-- `create` of a route viewset. -/
def createRoute (db : Database) (s : RouteResource) (pk : ℕ) (payload : RouteAttrs) :
    Except RequestError Database :=
  match s.runValidation env db.toTables none false payload with
  | .error errors => .error (.invalid errors)
  | .ok attrs =>
    match s.newRoute pk attrs with
    | none => .error (.save .integrity) -- A required column would be null.
    | some r =>
      if pk ∈ db.routes.map Route.pk then .error (.save .integrity)
      else (db.save env.serviceId (.route r)).mapError .save

/-- `update` and `partial_update` of a route viewset. -/
def updateRoute (db : Database) (s : RouteResource) (isPartial fromProxy : Bool) (pk : ℕ)
    (payload : RouteAttrs) : Except RequestError Database :=
  match s.getObject db.toTables fromProxy pk with
  | .error e => .error e
  | .ok r =>
    match s.runValidation env db.toTables (some r) isPartial payload with
    | .error errors => .error (.invalid errors)
    | .ok attrs => (db.save env.serviceId (.route (attrs.assign r))).mapError .save

/-- `destroy` of a route viewset. -/
def destroyRoute (db : Database) (s : RouteResource) (fromProxy : Bool) (pk : ℕ) :
    Except RequestError Database :=
  match s.getObject db.toTables fromProxy pk with
  | .error e => .error e
  | .ok _ => (db.delete (.route pk)).mapError .save

/-- `create` of `HTTPPortViewSet`. -/
def createPort (db : Database) (pk : ℕ) (payload : PortAttrs) : Except RequestError Database :=
  match HTTPPortSerializer.runValidation env none false payload with
  | .error errors => .error (.invalid errors)
  | .ok attrs =>
    match attrs.newPort pk with
    | none => .error (.save .integrity)
    | some p =>
      if pk ∈ db.httpPorts.map HTTPPort.pk then .error (.save .integrity)
      else (db.save env.serviceId (.httpPort p)).mapError .save

/-- `update` and `partial_update` of `HTTPPortViewSet`. -/
def updatePort (db : Database) (isPartial fromProxy : Bool) (pk : ℕ) (payload : PortAttrs) :
    Except RequestError Database :=
  match HTTPPortViewSet.getObject db.toTables fromProxy pk with
  | .error e => .error e
  | .ok p =>
    match HTTPPortSerializer.runValidation env (some p) isPartial payload with
    | .error errors => .error (.invalid errors)
    | .ok attrs => (db.save env.serviceId (.httpPort (attrs.assign p))).mapError .save

/-- `HTTPPortViewSet.destroy`. -/
def destroyPort (db : Database) (fromProxy : Bool) (pk : ℕ) : Except RequestError Database :=
  match HTTPPortViewSet.getObject db.toTables fromProxy pk with
  | .error e => .error e
  | .ok p =>
    if p.isApiPort then .error (.forbidden "Cannot delete the API port")
    else (db.delete (.httpPort pk)).mapError .save

/-- The effect of a request. -/
def perform (db : Database) : Request → Except RequestError Database
  | .createRoute s pk payload => createRoute env db s pk payload
  | .updateRoute s isPartial fromProxy pk payload =>
    updateRoute env db s isPartial fromProxy pk payload
  | .destroyRoute s fromProxy pk => destroyRoute db s fromProxy pk
  | .createPort pk payload => createPort env db pk payload
  | .updatePort isPartial fromProxy pk payload => updatePort env db isPartial fromProxy pk payload
  | .destroyPort fromProxy pk => destroyPort db fromProxy pk

/-- The databases that accepted requests lead to from `init`, when each request satisfies
`admitted` in the state it is made in. -/
inductive Reached (admitted : Database → Request → Prop) (init : Database) : Database → Prop
  | start : Reached admitted init init
  | step {db db' : Database} {req : Request} (h : Reached admitted init db)
      (hadmitted : admitted db req) (hperform : perform env db req = .ok db') :
      Reached admitted init db'

end Perform

/-- What an accepted request of each kind has passed, and what it does to the tables. -/
inductive Effect (env : SerializerEnv) (db : Database) : Request → Database → Prop
  | createRoute {s : RouteResource} {pk : ℕ} {payload attrs : RouteAttrs} {r row : Route ℕ}
      {db' : Database}
      (hvalid : s.runValidation env db.toTables none false payload = .ok attrs)
      (hnew : s.newRoute pk attrs = some r) (hfresh : pk ∉ db.routes.map Route.pk)
      (hrow : r.prepareAs db.toTables = .ok row)
      (htables : db'.toTables =
        { db.toTables with routes := Table.upsert Route.pk row db.routes }) :
      Effect env db (.createRoute s pk payload) db'
  | updateRoute {s : RouteResource} {isPartial fromProxy : Bool} {pk : ℕ}
      {payload attrs : RouteAttrs} {r row : Route ℕ} {db' : Database}
      (hmem : r ∈ db.routes) (howns : s.owns r = true)
      (hvalid : s.runValidation env db.toTables (some r) isPartial payload = .ok attrs)
      (hrow : (attrs.assign r).prepareAs db.toTables = .ok row)
      (htables : db'.toTables =
        { db.toTables with routes := Table.upsert Route.pk row db.routes }) :
      Effect env db (.updateRoute s isPartial fromProxy pk payload) db'
  | createPort {pk : ℕ} {payload : PortAttrs} {p : HTTPPort} {db' : Database}
      (hnew : payload.newPort pk = some p) (hfresh : pk ∉ db.httpPorts.map HTTPPort.pk)
      (htables : db'.toTables =
        { db.toTables with httpPorts := Table.upsert HTTPPort.pk p.prepare db.httpPorts }) :
      Effect env db (.createPort pk payload) db'
  | updatePort {isPartial fromProxy : Bool} {pk : ℕ} {payload : PortAttrs} {p : HTTPPort}
      {db' : Database}
      (hmem : p ∈ db.httpPorts) (hpk : p.pk = pk)
      (hflag : payload.isApiPort = some false → p.isApiPort = false)
      (htables : db'.toTables =
        { db.toTables with
          httpPorts := Table.upsert HTTPPort.pk (payload.assign p).prepare db.httpPorts }) :
      Effect env db (.updatePort isPartial fromProxy pk payload) db'
  | destroyRoute {s : RouteResource} {fromProxy : Bool} {pk : ℕ} {db' : Database}
      (htables : db'.toTables = db.remove (.route pk)) :
      Effect env db (.destroyRoute s fromProxy pk) db'
  | destroyPort {fromProxy : Bool} {pk : ℕ} {db' : Database}
      (htables : db'.toTables = db.remove (.httpPort pk)) :
      Effect env db (.destroyPort fromProxy pk) db'

section Inversion

variable {env : SerializerEnv} {db db' : Database}

/-- A renamed error does not hide a success. -/
theorem ok_of_mapError {ε ε' α : Type} {f : ε → ε'} {x : Except ε α} {a : α}
    (h : x.mapError f = .ok a) : x = .ok a := by
  cases x with
  | error e => cases h
  | ok b =>
      cases h
      rfl

/-- A route that was saved is stored as its own class prepares it. -/
theorem routes_of_save {serviceId : String} {r : Route ℕ}
    (h : db.save serviceId (.route r) = .ok db') :
    ∃ row, r.prepareAs db.toTables = .ok row ∧
      db'.toTables = { db.toTables with routes := Table.upsert Route.pk row db.routes } := by
  have hwrite := Database.write_of_save h
  rw [Tables.write] at hwrite
  cases hrow : r.prepareAs db.toTables with
  | error e => rw [hrow] at hwrite; cases hwrite
  | ok row =>
      rw [hrow] at hwrite
      exact ⟨row, rfl, (Except.ok.inj hwrite).symm⟩

/-- A port that was saved is stored with the name of its listener. -/
theorem httpPorts_of_save {serviceId : String} {p : HTTPPort}
    (h : db.save serviceId (.httpPort p) = .ok db') :
    db'.toTables =
      { db.toTables with httpPorts := Table.upsert HTTPPort.pk p.prepare db.httpPorts } :=
  (Except.ok.inj (Database.write_of_save h)).symm

/-- The object of a route request is a row of its resource. -/
theorem RouteResource.getObject_ok {s : RouteResource} {t : Tables} {fromProxy : Bool} {pk : ℕ}
    {r : Route ℕ} (h : s.getObject t fromProxy pk = .ok r) :
    r ∈ t.routes ∧ r.pk = pk ∧ s.owns r = true := by
  unfold RouteResource.getObject at h
  split at h
  · cases h
  · rename_i r' hfind
    have hfound := List.find?_some hfind
    obtain ⟨hpk, howns⟩ := of_decide_eq_true hfound
    -- The permission check comes after the lookup and may still refuse the request.
    cases hproxy : disallowWriteFromProxy fromProxy (s.objectWriteUnsafe t r') with
    | error e => rw [hproxy] at h; cases h
    | ok _ =>
        rw [hproxy] at h
        cases h
        exact ⟨List.mem_of_find?_eq_some hfind, hpk, howns⟩

/-- The object of a port request is a row with the key of the request. -/
theorem HTTPPortViewSet.getObject_ok {t : Tables} {fromProxy : Bool} {pk : ℕ} {p : HTTPPort}
    (h : HTTPPortViewSet.getObject t fromProxy pk = .ok p) : p ∈ t.httpPorts ∧ p.pk = pk := by
  unfold HTTPPortViewSet.getObject at h
  split at h
  · cases h
  · rename_i p' hfind
    have hfound := List.find?_some hfind
    cases hproxy : disallowWriteFromProxy fromProxy p'.isApiPort with
    | error e => rw [hproxy] at h; cases h
    | ok _ =>
        rw [hproxy] at h
        cases h
        exact ⟨List.mem_of_find?_eq_some hfind, of_decide_eq_true hfound⟩

/-- An accepted create of a route. -/
theorem effect_of_createRoute {s : RouteResource} {pk : ℕ} {payload : RouteAttrs}
    (h : createRoute env db s pk payload = .ok db') :
    Effect env db (.createRoute s pk payload) db' := by
  -- The branches of `create` in their order: validation, the object, its key, the save.
  unfold createRoute at h
  split at h
  · cases h
  · rename_i attrs hvalid
    split at h
    · cases h
    · rename_i r hnew
      split at h
      · cases h
      · rename_i hfresh
        obtain ⟨row, hrow, htables⟩ := routes_of_save (ok_of_mapError h)
        exact .createRoute hvalid hnew hfresh hrow htables

/-- What an accepted update of a route has passed, and what it does to the tables. -/
theorem updateRoute_ok {s : RouteResource} {isPartial fromProxy : Bool} {pk : ℕ}
    {payload : RouteAttrs} (h : updateRoute env db s isPartial fromProxy pk payload = .ok db') :
    ∃ r attrs row, r ∈ db.routes ∧ r.pk = pk ∧ s.owns r = true ∧
      s.runValidation env db.toTables (some r) isPartial payload = .ok attrs ∧
      (attrs.assign r).prepareAs db.toTables = .ok row ∧
      db'.toTables = { db.toTables with routes := Table.upsert Route.pk row db.routes } := by
  unfold updateRoute at h
  split at h
  · cases h
  · rename_i r hobject
    obtain ⟨hmem, hpk, howns⟩ := RouteResource.getObject_ok hobject
    split at h
    · cases h
    · rename_i attrs hvalid
      obtain ⟨row, hrow, htables⟩ := routes_of_save (ok_of_mapError h)
      exact ⟨r, attrs, row, hmem, hpk, howns, hvalid, hrow, htables⟩

/-- An accepted update of a route. -/
theorem effect_of_updateRoute {s : RouteResource} {isPartial fromProxy : Bool} {pk : ℕ}
    {payload : RouteAttrs} (h : updateRoute env db s isPartial fromProxy pk payload = .ok db') :
    Effect env db (.updateRoute s isPartial fromProxy pk payload) db' := by
  obtain ⟨r, attrs, row, hmem, -, howns, hvalid, hrow, htables⟩ := updateRoute_ok h
  exact .updateRoute hmem howns hvalid hrow htables

/-- An accepted create of a port. -/
theorem effect_of_createPort {pk : ℕ} {payload : PortAttrs}
    (h : createPort env db pk payload = .ok db') :
    Effect env db (.createPort pk payload) db' := by
  unfold createPort at h
  split at h
  · cases h
  · rename_i attrs hvalid
    obtain ⟨rfl, -⟩ := HTTPPortSerializer.runValidation_ok hvalid
    split at h
    · cases h
    · rename_i p hnew
      split at h
      · cases h
      · rename_i hfresh
        exact .createPort hnew hfresh (httpPorts_of_save (ok_of_mapError h))

/-- An accepted update of a port. -/
theorem effect_of_updatePort {isPartial fromProxy : Bool} {pk : ℕ} {payload : PortAttrs}
    (h : updatePort env db isPartial fromProxy pk payload = .ok db') :
    Effect env db (.updatePort isPartial fromProxy pk payload) db' := by
  unfold updatePort at h
  split at h
  · cases h
  · rename_i p hobject
    obtain ⟨hmem, hpk⟩ := HTTPPortViewSet.getObject_ok hobject
    split at h
    · cases h
    · rename_i attrs hvalid
      obtain ⟨rfl, hflag⟩ := HTTPPortSerializer.runValidation_ok hvalid
      exact .updatePort hmem hpk hflag (httpPorts_of_save (ok_of_mapError h))

/-- An accepted delete of a route. -/
theorem effect_of_destroyRoute {s : RouteResource} {fromProxy : Bool} {pk : ℕ}
    (h : destroyRoute db s fromProxy pk = .ok db') :
    Effect env db (.destroyRoute s fromProxy pk) db' := by
  unfold destroyRoute at h
  split at h
  · cases h
  · exact .destroyRoute (Database.toTables_of_commit (ok_of_mapError h))

/-- An accepted delete of a port. -/
theorem effect_of_destroyPort {fromProxy : Bool} {pk : ℕ}
    (h : destroyPort db fromProxy pk = .ok db') :
    Effect env db (.destroyPort fromProxy pk) db' := by
  unfold destroyPort at h
  split at h
  · cases h
  · split at h
    · cases h
    · exact .destroyPort (Database.toTables_of_commit (ok_of_mapError h))

/-- An accepted request has one of the six effects. -/
theorem effect_of_perform {req : Request} (h : perform env db req = .ok db') :
    Effect env db req db' := by
  cases req with
  | createRoute s pk payload => exact effect_of_createRoute h
  | updateRoute s isPartial fromProxy pk payload => exact effect_of_updateRoute h
  | destroyRoute s fromProxy pk => exact effect_of_destroyRoute h
  | createPort pk payload => exact effect_of_createPort h
  | updatePort isPartial fromProxy pk payload => exact effect_of_updatePort h
  | destroyPort fromProxy pk => exact effect_of_destroyPort h

/-- A property of databases that every admitted request keeps holds in every state reached. -/
theorem Reached.invariant {admitted : Database → Request → Prop} {init : Database}
    {P : Database → Prop} (hinit : P init)
    (hstep : ∀ db req db', P db → admitted db req → Effect env db req db' → P db')
    (h : Reached env admitted init db) : P db := by
  induction h with
  | start => exact hinit
  | step _ hadmitted hperform ih => exact hstep _ _ _ ih hadmitted (effect_of_perform hperform)

end Inversion

/-- Serializers whose base classes reject nothing. -/
def plainSerializers : SerializerEnv where
  serviceId := "gw"
  routeChecks _ _ := []
  portChecks _ _ := []

/-- An EDA service with a port for webhooks and the given routes. -/
def webhookTables (isApiPort : Bool) (routes : List (Route ℕ)) : Tables where
  serviceTypes := [⟨1, "eda", some "/api/eda/v1/status/", none, none, none⟩]
  serviceClusters := [{ pk := 1, name := "eda", serviceType := 1, serviceId := none }]
  httpPorts :=
    [{ pk := 1, name := "webhooks", number := 9021, isApiPort, envoyListenerName := "port-9021" }]
  routes := routes

/-- The EDA service before it has a route. -/
def webhookDatabase : Database :=
  ⟨webhookTables false [], by decide⟩

/-- A payload for a route to the EDA service, with the given path. -/
def webhookPayload (gatewayPath : String) : RouteAttrs where
  name := some "webhook"
  httpPort := some 1
  serviceCluster := some 1
  servicePort := some 8000
  isServiceHttps := some false
  servicePath := some "/hook/"
  gatewayPath := some gatewayPath

end AapGateway.Routes
