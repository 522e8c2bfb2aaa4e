import AapGateway.Models.Defs

/-!
# The gateway database

`Tables` is the content of the service tables and `Database` the content together with the
constraints the schema enforces: unique primary keys and names, the unique columns of ports and
routes, and foreign keys that point to a row. A statement that would break a constraint raises
and leaves the database as it was.

`save` follows each model's own `save` method before the row is written, `delete` follows the
`on_delete=CASCADE` of every foreign key. Both report the senders of the signals Django emits,
which the cache invalidation listens to.
-/

namespace AapGateway

/-- The content of the service tables and of the preferences. -/
structure Tables where
  serviceTypes : List ServiceType := []
  serviceClusters : List (ServiceCluster ℕ) := []
  serviceNodes : List ServiceNode := []
  httpPorts : List HTTPPort := []
  routes : List (Route ℕ) := []
  caCertificates : List CACertificate := []
  preferences : Preferences := {}
  deriving DecidableEq, Repr

/-- The instance of a route row whose foreign key leads to the cluster `c`. -/
def Route.withCluster (r : Route ℕ) (c : ServiceCluster ServiceType) : RouteInstance :=
  { r with serviceCluster := c }

namespace Tables

/-- The unique columns of the schema. -/
def UniqueColumns (t : Tables) : Prop :=
  (t.serviceTypes.map ServiceType.pk).Nodup ∧
  (t.serviceTypes.map ServiceType.name).Nodup ∧
  (t.serviceClusters.map ServiceCluster.pk).Nodup ∧
  (t.serviceClusters.map ServiceCluster.name).Nodup ∧
  (t.serviceClusters.filterMap ServiceCluster.serviceId).Nodup ∧
  (t.serviceNodes.map ServiceNode.pk).Nodup ∧
  (t.serviceNodes.map ServiceNode.name).Nodup ∧
  (t.httpPorts.map HTTPPort.pk).Nodup ∧
  (t.httpPorts.map HTTPPort.name).Nodup ∧
  (t.httpPorts.map HTTPPort.number).Nodup ∧
  -- `unique_api_port` is a partial constraint: it binds only rows with `is_api_port`.
  ((t.httpPorts.filter HTTPPort.isApiPort).map HTTPPort.isApiPort).Nodup ∧
  (t.routes.map Route.pk).Nodup ∧
  (t.routes.map Route.name).Nodup ∧
  (t.routes.map fun r => (r.httpPort, r.gatewayPath)).Nodup ∧
  (t.caCertificates.map CACertificate.pk).Nodup ∧
  (t.caCertificates.map CACertificate.name).Nodup

/-- The foreign keys of the schema point to rows. -/
def ForeignKeys (t : Tables) : Prop :=
  (∀ c ∈ t.serviceClusters, c.serviceType ∈ t.serviceTypes.map ServiceType.pk) ∧
  (∀ n ∈ t.serviceNodes, n.serviceCluster ∈ t.serviceClusters.map ServiceCluster.pk) ∧
  (∀ r ∈ t.routes, r.serviceCluster ∈ t.serviceClusters.map ServiceCluster.pk) ∧
  (∀ r ∈ t.routes, r.httpPort ∈ t.httpPorts.map HTTPPort.pk)

/-- The constraints the database enforces on every statement. -/
def Integrity (t : Tables) : Prop :=
  t.UniqueColumns ∧ t.ForeignKeys

instance (t : Tables) : Decidable t.UniqueColumns := by
  unfold UniqueColumns
  infer_instance

instance (t : Tables) : Decidable t.ForeignKeys := by
  unfold ForeignKeys
  infer_instance

/-- A statement's constraints are checked when it is executed. -/
instance (t : Tables) : Decidable t.Integrity := by
  unfold Integrity
  infer_instance

/-- Follow a cluster's foreign key to its service type. -/
def resolveCluster (t : Tables) (c : ServiceCluster ℕ) : Option (ServiceCluster ServiceType) :=
  (t.serviceTypes.find? (·.pk = c.serviceType)).map fun s => { c with serviceType := s }

/-- The cluster with a primary key, with its service type. -/
def clusterByPk (t : Tables) (pk : ℕ) : Option (ServiceCluster ServiceType) :=
  (t.serviceClusters.find? (·.pk = pk)).bind t.resolveCluster

/-- Follow a route's foreign keys to its cluster and that cluster's service type. -/
def resolveRoute (t : Tables) (r : Route ℕ) : Option RouteInstance :=
  (t.clusterByPk r.serviceCluster).map r.withCluster

/-- `service_cluster.nodes.all()`. -/
def nodesOf (t : Tables) (clusterPk : ℕ) : List ServiceNode :=
  t.serviceNodes.filter (·.serviceCluster = clusterPk)

/-- `service_cluster.routes.all()`. -/
def routesOf (t : Tables) (clusterPk : ℕ) : List (Route ℕ) :=
  t.routes.filter (·.serviceCluster = clusterPk)

end Tables

/-- A database: tables that satisfy the schema's constraints. -/
structure Database extends Tables where
  integrity : toTables.Integrity

namespace Database

/-- A database is determined by its tables. -/
theorem ext {a b : Database} (h : a.toTables = b.toTables) : a = b := by
  cases a
  cases b
  simp_all

instance : DecidableEq Database := fun _ _ =>
  decidable_of_iff _ ⟨ext, congrArg toTables⟩

/-- The database before any row is written. -/
def empty : Database where
  toTables := {}
  integrity := by decide

end Database

/-- How a query for one object fails. -/
inductive LookupError where
  | doesNotExist
  | multipleObjectsReturned
  deriving DecidableEq, Repr

/-- `queryset.get()` of the rows a query selects. -/
def getOne {α : Type} : List α → Except LookupError α
  | [] => .error .doesNotExist
  | [a] => .ok a
  | _ :: _ :: _ => .error .multipleObjectsReturned

/-- A query for one object returns the only row it selects. -/
theorem eq_singleton_of_getOne {α : Type} {rows : List α} {a : α} (h : getOne rows = .ok a) :
    rows = [a] := by
  match rows, h with
  | [_], rfl => rfl

/-- The senders of model signals that the modelled tables emit. -/
inductive Sender where
  | serviceType
  | serviceCluster
  | serviceNode
  | httpPort
  | route
  | additionalRoute
  | serviceAPIRoute
  | uiPluginRoute
  | caCertificate
  | preference
  deriving DecidableEq, Repr

/-- The model class of a route row. -/
def RouteKind.sender : RouteKind → Sender
  | .route => .route
  | .additionalRoute => .additionalRoute
  | .serviceAPIRoute _ => .serviceAPIRoute
  | .uiPluginRoute _ => .uiPluginRoute

/-- What a `save` can raise before the row is written or when the statement is executed. -/
inductive SaveError where
  /-- `ValidationError` with its field and message. -/
  | validation (field message : String)
  /-- `DoesNotExist` of a lookup the method makes. -/
  | doesNotExist (model : Sender)
  /-- `IntegrityError` of a constraint. -/
  | integrity
  deriving DecidableEq, Repr

/-- `API_PREFIX`. -/
def apiPrefix : String := "/api/"

/-- `PLUGIN_PREFIX`. -/
def pluginPrefix : String := "/plugin/"

/-- `get_gateway_path_prefix_error_message`. -/
def gatewayPathPrefixErrorMessage : String :=
  "Custom routes on the API port cannot start with '" ++ apiPrefix ++ "' or '" ++ pluginPrefix ++
    "'"

namespace Route

variable {C : Type}

/-- The node part of a cluster name: the sorted tags, or `*` for a route without tags. -/
def nodesKey (r : Route C) : String :=
  let nodes := r.nodeTagsList.insertionSort (· ≤ ·)
  if nodes.length = 0 then "*" else Text.join ',' nodes

/-- The name `Route.save` gives the cluster of a route. -/
def clusterName (r : Route ℕ) : String :=
  "cluster-" ++ r.serviceCluster.repr ++ "-" ++ r.servicePort.repr ++ "-nodes:" ++ r.nodesKey

/-- `Route.save`: the row that is written. -/
def prepare (r : Route ℕ) : Route ℕ :=
  { r with envoyClusterName := r.clusterName }

/-- `AdditionalRoute.clean`. -/
def clean (t : Tables) (r : Route ℕ) : Except SaveError Unit :=
  match t.httpPorts.find? (·.pk = r.httpPort) with
  | none => .error (.doesNotExist .httpPort)
  | some port =>
    if port.isApiPort &&
        (Text.startsWith r.gatewayPath apiPrefix || Text.startsWith r.gatewayPath pluginPrefix)
    then .error (.validation "gateway_path" gatewayPathPrefixErrorMessage)
    else .ok ()

/-- The `save` method of a route's own class, up to the statement: the row that is written. -/
def prepareAs (t : Tables) (r : Route ℕ) : Except SaveError (Route ℕ) :=
  match r.kind with
  | .route => .ok r.prepare
  | .additionalRoute => do
    r.clean t
    return r.prepare
  | .serviceAPIRoute apiSlug =>
    match t.httpPorts.find? (·.isApiPort) with
    | none => .error (.doesNotExist .httpPort)
    | some port =>
      -- A service API is moved to the API port, whatever port it was given.
      let gatewayPath := if apiSlug = "gateway" then "/" else apiPrefix ++ apiSlug ++ "/"
      .ok { r with httpPort := port.pk, gatewayPath := gatewayPath }.prepare
  | .uiPluginRoute uiPluginPath =>
    match t.serviceClusters.find? (·.pk = r.serviceCluster) with
    | none => .error (.doesNotExist .serviceCluster)
    | some c =>
      .ok { r with
            gatewayPath := pluginPrefix ++ c.name ++ "/" ++ uiPluginPath ++ "/"
            enableGatewayAuth := false
            isInternalRoute := false
            servicePath := uiPluginPath }.prepare

end Route

/-- `HTTPPort.save`: the row that is written. -/
def HTTPPort.prepare (p : HTTPPort) : HTTPPort :=
  { p with envoyListenerName := "port-" ++ p.number.repr }

/-- `ServiceCluster.save`: the gateway's own cluster gets the gateway's service id. -/
def ServiceCluster.prepare (serviceId : String) (t : Tables) (c : ServiceCluster ℕ) :
    Except SaveError (ServiceCluster ℕ) :=
  match t.serviceTypes.find? (·.pk = c.serviceType) with
  | none => .error (.doesNotExist .serviceType)
  | some s =>
    if s.name = DefaultServiceType.gateway.value ∧ (c.serviceId = none ∨ c.serviceId = some "")
    then .ok { c with serviceId := some serviceId }
    else .ok c

/-- An object whose `save` method is called, or a preference update. -/
inductive Object where
  | serviceType (s : ServiceType)
  | serviceCluster (c : ServiceCluster ℕ)
  | serviceNode (n : ServiceNode)
  | httpPort (p : HTTPPort)
  | route (r : Route ℕ)
  | caCertificate (c : CACertificate)
  | preferences (p : Preferences)
  deriving DecidableEq, Repr

namespace Tables

/-- The tables after an object's `save` has executed its statement, before constraints. -/
def write (serviceId : String) (t : Tables) : Object → Except SaveError Tables
  | .serviceType s =>
    .ok { t with serviceTypes := Table.upsert ServiceType.pk s t.serviceTypes }
  | .serviceCluster c => do
    let row ← c.prepare serviceId t
    return { t with serviceClusters := Table.upsert ServiceCluster.pk row t.serviceClusters }
  | .serviceNode n =>
    .ok { t with serviceNodes := Table.upsert ServiceNode.pk n t.serviceNodes }
  | .httpPort p =>
    .ok { t with httpPorts := Table.upsert HTTPPort.pk p.prepare t.httpPorts }
  | .route r => do
    let row ← r.prepareAs t
    return { t with routes := Table.upsert Route.pk row t.routes }
  | .caCertificate c =>
    .ok { t with caCertificates := Table.upsert CACertificate.pk c t.caCertificates }
  | .preferences p => .ok { t with preferences := p }

/-- The routes of the clusters in `pks`, and the nodes of those clusters, are deleted with the
clusters. -/
def eraseClusters (p : ServiceCluster ℕ → Bool) (t : Tables) : Tables :=
  let gone := (t.serviceClusters.filter p).map ServiceCluster.pk
  { t with
    serviceClusters := Table.erase p t.serviceClusters
    serviceNodes := Table.erase (fun n => gone.contains n.serviceCluster) t.serviceNodes
    routes := Table.erase (fun r => gone.contains r.serviceCluster) t.routes }

end Tables

/-- The row a `delete` is called on. -/
inductive Target where
  | serviceType (pk : ℕ)
  | serviceCluster (pk : ℕ)
  | serviceNode (pk : ℕ)
  | httpPort (pk : ℕ)
  | route (pk : ℕ)
  | caCertificate (pk : ℕ)
  deriving DecidableEq, Repr

/-- The tables after a row is deleted with everything that cascades from it. -/
def Tables.remove (t : Tables) : Target → Tables
  | .serviceType pk =>
    let t' := t.eraseClusters (·.serviceType = pk)
    { t' with serviceTypes := Table.erase (·.pk = pk) t'.serviceTypes }
  | .serviceCluster pk => t.eraseClusters (·.pk = pk)
  | .serviceNode pk => { t with serviceNodes := Table.erase (·.pk = pk) t.serviceNodes }
  | .httpPort pk =>
    { t with
      httpPorts := Table.erase (·.pk = pk) t.httpPorts
      routes := Table.erase (·.httpPort = pk) t.routes }
  | .route pk => { t with routes := Table.erase (·.pk = pk) t.routes }
  | .caCertificate pk =>
    { t with caCertificates := Table.erase (·.pk = pk) t.caCertificates }

namespace Database

/-- Commit tables that satisfy the constraints. -/
def commit (t : Tables) : Except SaveError Database :=
  if h : t.Integrity then .ok ⟨t, h⟩ else .error .integrity

/-- `obj.save()`. -/
def save (serviceId : String) (db : Database) (obj : Object) : Except SaveError Database := do
  let t ← db.write serviceId obj
  commit t

/-- `obj.delete()`. -/
def delete (db : Database) (target : Target) : Except SaveError Database :=
  commit (db.remove target)

/-- A committed database holds the tables that were committed. -/
theorem toTables_of_commit {t : Tables} {db : Database} (h : commit t = .ok db) :
    db.toTables = t := by
  unfold commit at h
  split at h
  · cases h; rfl
  · cases h

/-- A successful save wrote exactly what the object's `save` method prepares. -/
theorem write_of_save {serviceId : String} {db db' : Database} {obj : Object}
    (h : db.save serviceId obj = .ok db') : db.write serviceId obj = .ok db'.toTables := by
  unfold save at h
  cases hw : db.write serviceId obj with
  | error e => rw [hw] at h; cases h
  | ok t =>
      rw [hw] at h
      rw [toTables_of_commit (h : commit t = .ok db')]

/-- The databases that saves and deletes lead to. -/
inductive Reachable (serviceId : String) : Database → Prop
  | empty : Reachable serviceId Database.empty
  | save {db db' : Database} {obj : Object} (h : Reachable serviceId db)
      (step : db.save serviceId obj = .ok db') : Reachable serviceId db'
  | delete {db db' : Database} {target : Target} (h : Reachable serviceId db)
      (step : db.delete target = .ok db') : Reachable serviceId db'

/-- Save a list of objects in order. -/
def saveAll (serviceId : String) (db : Database) (objs : List Object) :
    Except SaveError Database :=
  objs.foldlM (save serviceId) db

/-- Saving a list of objects leads to a reachable database. -/
theorem Reachable.saveAll {serviceId : String} {db db' : Database} {objs : List Object}
    (h : Reachable serviceId db) (hs : db.saveAll serviceId objs = .ok db') :
    Reachable serviceId db' := by
  induction objs generalizing db with
  | nil =>
      cases hs
      exact h
  | cons obj objs ih =>
      rw [Database.saveAll, List.foldlM_cons] at hs
      cases hstep : db.save serviceId obj with
      | error e => rw [hstep] at hs; cases hs
      | ok db₁ =>
          -- The rest of the list starts from the database after this save.
          rw [hstep] at hs
          exact ih (h.save hstep) hs

/-- Every foreign key of a cluster leads to its service type. -/
theorem exists_resolveCluster (db : Database) {c : ServiceCluster ℕ}
    (h : c ∈ db.serviceClusters) :
    ∃ s ∈ db.serviceTypes, s.pk = c.serviceType ∧
      db.resolveCluster c = some { c with serviceType := s } := by
  obtain ⟨s, hs, hpk⟩ := List.mem_map.mp (db.integrity.2.1 c h)
  -- The foreign key points to a row, so the query finds one with its key.
  cases hfind : db.serviceTypes.find? (·.pk = c.serviceType) with
  | none =>
      have hnone := List.find?_eq_none.mp hfind s hs
      simp [hpk] at hnone
  | some s' =>
      refine ⟨s', List.mem_of_find?_eq_some hfind, by simpa using List.find?_some hfind, ?_⟩
      rw [Tables.resolveCluster, hfind]
      rfl

/-- Every foreign key of a route leads to its cluster and service type. -/
theorem exists_resolveRoute (db : Database) {r : Route ℕ} (h : r ∈ db.routes) :
    ∃ c ∈ db.serviceClusters, ∃ s ∈ db.serviceTypes,
      c.pk = r.serviceCluster ∧ s.pk = c.serviceType ∧
      db.clusterByPk r.serviceCluster = some { c with serviceType := s } := by
  obtain ⟨c, hc, hpk⟩ := List.mem_map.mp (db.integrity.2.2.2.1 r h)
  cases hfind : db.serviceClusters.find? (·.pk = r.serviceCluster) with
  | none =>
      have hnone := List.find?_eq_none.mp hfind c hc
      simp [hpk] at hnone
  | some c' =>
      obtain ⟨s, hs, hspk, hres⟩ := db.exists_resolveCluster (List.mem_of_find?_eq_some hfind)
      refine ⟨c', List.mem_of_find?_eq_some hfind, s, hs,
        by simpa using List.find?_some hfind, hspk, ?_⟩
      rw [Tables.clusterByPk, hfind]
      exact hres

end Database

end AapGateway
