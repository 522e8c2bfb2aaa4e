import AapGateway.Routes.Requests
import AapGateway.Xds.RouteConfig

/-!
# The paths of UI plugins

A UI plugin is served under the gateway path `/plugin/<cluster>/<path>/`, which `UIPluginRoute.save`
makes of the name of the cluster and of the path of the plugin. The serializer strips the slashes at
both ends of this path. `save` puts them around it in the gateway path, and takes it as it is for
the service path, which the proxy puts in place of the gateway path.

## Main definitions

* `UIPluginAttrs` and `UIPluginRouteSerializer.runValidation`: a payload, and what is checked of it;
* `PluginRequest` and `performPlugin`: the requests that store a plugin route;
* `rewrittenPaths`: what the proxy makes of a request under the stored gateway path;
* `RewritesPlugin`: it makes the path of the plugin on the service of it.

## Main results

* `row_of_performPlugin`: the paths that are stored;
* `mem_rewrittenPaths`: the path of a request is the stripped path of the plugin, directly followed
  by what stands behind the gateway path.
-/

namespace AapGateway.Routes

/-- `value.strip('/')`. -/
def stripSlashes (value : String) : String :=
  String.ofList ((value.toList.dropWhile (· = '/')).rdropWhile (· = '/'))

/-- The fields of the payload of a plugin route. -/
structure UIPluginAttrs extends RouteAttrs where
  uiPluginPath : Option String := none
  deriving DecidableEq, Repr

/-- The checks of the serializer's base classes read all fields of the payload. -/
structure PluginEnv extends SerializerEnv where
  pluginChecks : Option (Route ℕ) → UIPluginAttrs → List FieldError

namespace UIPluginRouteSerializer

/-- `validate_ui_plugin_path`. -/
def validateUiPluginPath (value : String) : String :=
  stripSlashes value

/-- What the validators of the field say of a text. -/
def uiPluginPathErrors (value : String) : List FieldError :=
  (if 255 < value.length then
    [⟨"ui_plugin_path", "Ensure this field has no more than 255 characters.", "max_length"⟩]
  else []) ++
  if '\x00' ∈ value.toList then
    [⟨"ui_plugin_path", "Null characters are not allowed.", "null_characters_not_allowed"⟩]
  else []

/-- The field `ui_plugin_path`: the text is trimmed and must not be blank, and the validators read
what is left. -/
def uiPluginPathField (isPartial : Bool) (value : Option String) :
    Except (List FieldError) (Option String) :=
  match value with
  | none =>
    if isPartial then .ok none else .error (requiredField isPartial "ui_plugin_path" value)
  | some value =>
    let value := Text.strip value
    if value = "" then .error [⟨"ui_plugin_path", "This field may not be blank.", "blank"⟩]
    else if uiPluginPathErrors value ≠ [] then .error (uiPluginPathErrors value)
    else .ok (some (validateUiPluginPath value))

/-- The other fields that the serializer writes. -/
def writable (payload : UIPluginAttrs) : RouteAttrs where
  name := payload.name
  requestTimeoutSeconds := payload.requestTimeoutSeconds
  idleTimeoutSeconds := payload.idleTimeoutSeconds
  httpPort := payload.httpPort
  serviceCluster := payload.serviceCluster
  servicePort := payload.servicePort
  isServiceHttps := payload.isServiceHttps
  order := payload.order
  nodeTags := payload.nodeTags

/-- `ServiceCluster.objects.exclude(service_type__name=DefaultServiceType.GATEWAY)`. -/
def serviceClusterByPk (t : Tables) (pk : ℕ) : Option (ServiceCluster ℕ) :=
  t.serviceClusters.find? fun c => c.pk = pk ∧ t.isGatewayCluster c = false

/-- The errors of the single fields, in the order the serializer declares them. -/
def fieldErrors (t : Tables) (isPartial : Bool) (payload : UIPluginAttrs) : List FieldError :=
  requiredField isPartial "name" payload.name ++
    relatedField isPartial "http_port" payload.httpPort
      (fun pk => t.httpPorts.find? (·.pk = pk)) (fun _ => []) ++
    relatedField isPartial "service_cluster" payload.serviceCluster (serviceClusterByPk t)
      (fun _ => []) ++
    requiredField isPartial "service_port" payload.servicePort ++
    requiredField isPartial "is_service_https" payload.isServiceHttps ++
    match uiPluginPathField isPartial payload.uiPluginPath with
    | .error errors => errors
    | .ok _ => []

/-- `serializer.run_validation`: the single fields, then `validate`. -/
def runValidation (env : PluginEnv) (t : Tables) (inst : Option (Route ℕ)) (isPartial : Bool)
    (payload : UIPluginAttrs) : Except (List FieldError) UIPluginAttrs :=
  let errors := fieldErrors t isPartial payload
  if errors ≠ [] then .error errors
  else
    match uiPluginPathField isPartial payload.uiPluginPath with
    | .error errors => .error errors
    | .ok uiPluginPath =>
      let attrs := writable payload
      -- `validate_node_tags` runs with the field.
      let attrs := { attrs with nodeTags := attrs.nodeTags.map normalizeCommaSeparatedList }
      let checks := fun inst attrs => env.pluginChecks inst { toRouteAttrs := attrs, uiPluginPath }
      (BaseRouteSerializer.validate { env.toSerializerEnv with routeChecks := checks }
        t.preferences inst attrs).map fun attrs => { toRouteAttrs := attrs, uiPluginPath }

end UIPluginRouteSerializer

/-- What a validated payload sets on an instance. -/
def UIPluginAttrs.assign (a : UIPluginAttrs) (r : Route ℕ) : Route ℕ :=
  { a.toRouteAttrs.assign r with
    kind :=
      match a.uiPluginPath with
      | some path => .uiPluginRoute path
      | none => r.kind }

/-- The object a create makes of the validated data. Both paths are set when it is saved. -/
def newPluginRoute (pk : ℕ) (a : UIPluginAttrs) : Option (Route ℕ) := do
  let name ← a.name
  let uiPluginPath ← a.uiPluginPath
  let httpPort ← a.httpPort
  let serviceCluster ← a.serviceCluster
  let servicePort ← a.servicePort
  let isServiceHttps ← a.isServiceHttps
  return a.assign
    { pk, name, kind := .uiPluginRoute uiPluginPath, httpPort, serviceCluster, servicePort
      isServiceHttps, servicePath := "", gatewayPath := "" }

/-- A row of `UIPluginRoute`. -/
def ownsPlugin (r : Route ℕ) : Bool :=
  match r.kind with
  | .uiPluginRoute _ => true
  | _ => false

/-- A request that stores a plugin route. -/
inductive PluginRequest where
  | create (pk : ℕ) (payload : UIPluginAttrs)
  | update (isPartial fromProxy : Bool) (pk : ℕ) (payload : UIPluginAttrs)
  deriving DecidableEq, Repr

/-- The key of the route. -/
def PluginRequest.pk : PluginRequest → ℕ
  | .create pk _ | .update _ _ pk _ => pk

def PluginRequest.payload : PluginRequest → UIPluginAttrs
  | .create _ payload | .update _ _ _ payload => payload

/-- `object_write_unsafe` of `UIPluginRouteViewSet`. -/
def pluginWriteUnsafe (t : Tables) (r : Route ℕ) : Bool :=
  (t.clusterByPk r.serviceCluster).any (·.serviceType.name = DefaultServiceType.gateway.value)

/-- `create`, `update` and `partial_update` of `UIPluginRouteViewSet`. -/
def performPlugin (env : PluginEnv) (db : Database) :
    PluginRequest → Except RequestError Database
  | .create pk payload =>
    match UIPluginRouteSerializer.runValidation env db.toTables none false payload with
    | .error errors => .error (.invalid errors)
    | .ok attrs =>
      match newPluginRoute pk attrs with
      | none => .error (.save .integrity)
      | some r =>
        if pk ∈ db.routes.map Route.pk then .error (.save .integrity)
        else (db.save env.serviceId (.route r)).mapError .save
  | .update isPartial fromProxy pk payload =>
    match db.routes.find? (fun r => r.pk = pk ∧ ownsPlugin r = true) with
    | none => .error .notFound
    | some r =>
      match disallowWriteFromProxy fromProxy (pluginWriteUnsafe db.toTables r) with
      | .error e => .error e
      | .ok _ =>
        match UIPluginRouteSerializer.runValidation env db.toTables (some r) isPartial payload with
        | .error errors => .error (.invalid errors)
        | .ok attrs => (db.save env.serviceId (.route (attrs.assign r))).mapError .save

/-! ## What the proxy makes of it -/

/-- `UIPluginRoute.get_xds_route_config`: the service path is the path of the plugin, and there are
no login and logout entries. -/
def getXdsPluginRouteConfig (p : Preferences) (r : RouteInstance) : List RouteEntry :=
  match r.kind with
  | .uiPluginRoute uiPluginPath =>
    let r := { r with servicePath := uiPluginPath }
    -- A route without one of these is not sent to the proxy.
    if r.gatewayPath = "" ∨ r.servicePath = "" ∨ r.envoyClusterName = "" then []
    else [r.mainEntry p]
  | _ => []

/-- The path that Envoy sends to the service: the prefix that has matched is replaced. -/
def rewrittenPath (e : RouteEntry) (requestPath : String) : Option String :=
  match e.pathMatch, e.action with
  | .pathPrefix p, .route prefixRewrite _ _ _ _ =>
    if Text.startsWith requestPath p then
      some (prefixRewrite ++ String.ofList (requestPath.toList.drop p.toList.length))
    else none
  | _, _ => none

/-- What becomes of a request for the gateway path of a stored plugin route, followed by a
suffix. -/
def rewrittenPaths (t : Tables) (pk : ℕ) (suffix : String) : List String :=
  (t.routes.filter (·.pk = pk)).flatMap fun r =>
    ((t.resolveRoute r).toList.flatMap (getXdsPluginRouteConfig t.preferences)).filterMap
      fun e => rewrittenPath e (r.gatewayPath ++ suffix)

/-- Such a request gets to the path of the plugin on the service, with its separators. -/
def RewritesPlugin (t : Tables) (pk : ℕ) (uiPluginPath suffix : String) : Prop :=
  "/" ++ stripSlashes uiPluginPath ++ "/" ++ suffix ∈ rewrittenPaths t pk suffix

instance (t : Tables) (pk : ℕ) (uiPluginPath suffix : String) :
    Decidable (RewritesPlugin t pk uiPluginPath suffix) :=
  inferInstanceAs (Decidable (_ ∈ _))

section Stored

variable {env : PluginEnv} {db db' : Database} {t : Tables} {path suffix : String}

/-- A stripped text does not begin with a slash. -/
theorem head?_stripSlashes (value : String) : (stripSlashes value).toList.head? ≠ some '/' := by
  rw [stripSlashes, String.toList_ofList]
  intro hhead
  have hpre := List.rdropWhile_prefix (· = '/') (l := value.toList.dropWhile (· = '/'))
  obtain ⟨rest, hrest⟩ := List.head?_eq_some_iff.mp hhead
  obtain ⟨tail, htail⟩ := hpre
  rw [hrest, List.cons_append] at htail
  -- What is left after the slashes at the front were dropped would begin with one.
  have hnot := List.head?_dropWhile_not (· = '/') value.toList
  rw [← htail] at hnot
  cases hnot

/-- The path that an accepted payload sets is trimmed and stripped. -/
theorem uiPluginPathField_ok {isPartial : Bool} {value result : Option String}
    (h : UIPluginRouteSerializer.uiPluginPathField isPartial value = .ok result) :
    result = value.map fun value => stripSlashes (Text.strip value) := by
  unfold UIPluginRouteSerializer.uiPluginPathField at h
  cases value with
  | none =>
      -- Only a partial update may leave the field out.
      cases isPartial with
      | true => exact (Except.ok.inj h).symm
      | false => cases h
  | some value =>
      dsimp only at h
      split at h
      · cases h
      · split at h
        · cases h
        · exact (Except.ok.inj h).symm

/-- So it is in the validated data. -/
theorem uiPluginPath_of_runValidation {inst : Option (Route ℕ)} {isPartial : Bool}
    {payload attrs : UIPluginAttrs}
    (h : UIPluginRouteSerializer.runValidation env t inst isPartial payload = .ok attrs) :
    attrs.uiPluginPath = payload.uiPluginPath.map fun value => stripSlashes (Text.strip value) := by
  unfold UIPluginRouteSerializer.runValidation at h
  dsimp only at h
  split at h
  · cases h
  · split at h
    · cases h
    · -- The checks of the base class see the path, but they write the other fields only.
      rename_i result hfield
      rw [← uiPluginPathField_ok hfield]
      cases hbase : BaseRouteSerializer.validate
          { env.toSerializerEnv with
            routeChecks := fun inst attrs => env.pluginChecks inst ⟨attrs, result⟩ }
          t.preferences inst
          { UIPluginRouteSerializer.writable payload with
            nodeTags :=
              (UIPluginRouteSerializer.writable payload).nodeTags.map normalizeCommaSeparatedList }
        with
      | error errors => rw [hbase] at h; cases h
      | ok base =>
          rw [hbase] at h
          rw [← Except.ok.inj h]

/-- The row of a plugin route as its `save` prepares it. -/
theorem prepareAs_plugin {r row : Route ℕ} (hkind : r.kind = .uiPluginRoute path)
    (h : r.prepareAs t = .ok row) :
    row.pk = r.pk ∧ row.kind = .uiPluginRoute path ∧ row.servicePath = path ∧
      ∃ c ∈ t.serviceClusters, c.pk = r.serviceCluster ∧
        row.gatewayPath = pluginPrefix ++ c.name ++ "/" ++ path ++ "/" := by
  unfold Route.prepareAs at h
  rw [hkind] at h
  dsimp only at h
  split at h
  · cases h
  · rename_i c hfind
    cases h
    have hfound := List.find?_some hfind
    exact ⟨rfl, rfl, rfl, c, List.mem_of_find?_eq_some hfind, of_decide_eq_true hfound, rfl⟩

/-- A route that is saved with the path of a plugin. -/
theorem row_of_save {serviceId : String} {r : Route ℕ} (hkind : r.kind = .uiPluginRoute path)
    (h : db.save serviceId (.route r) = .ok db') :
    ∀ row ∈ db'.routes, row.pk = r.pk →
      row.kind = .uiPluginRoute path ∧ row.servicePath = path ∧
        ∃ name, row.gatewayPath = pluginPrefix ++ name ++ "/" ++ path ++ "/" := by
  obtain ⟨row, hrow, htables⟩ := routes_of_save h
  obtain ⟨hpk, hkind', hservice, c, -, -, hgateway⟩ := prepareAs_plugin hkind hrow
  intro row' hmem hkey
  rw [htables] at hmem
  -- The row with the key of the request is the one that was written.
  rcases Table.mem_upsert.mp hmem with rfl | ⟨-, hne⟩
  · exact ⟨hkind', hservice, c.name, hgateway⟩
  · exact absurd (hkey.trans hpk.symm) hne

/-- The paths that an accepted request stores: the path of the plugin without the slashes at its
ends is the service path, and it is between two slashes in the gateway path. -/
theorem row_of_performPlugin {req : PluginRequest} {value : String}
    (h : performPlugin env db req = .ok db') (hvalue : req.payload.uiPluginPath = some value) :
    ∀ row ∈ db'.routes, row.pk = req.pk →
      row.kind = .uiPluginRoute (stripSlashes (Text.strip value)) ∧
        row.servicePath = stripSlashes (Text.strip value) ∧
        ∃ name, row.gatewayPath =
          pluginPrefix ++ name ++ "/" ++ stripSlashes (Text.strip value) ++ "/" := by
  cases req with
  | create pk payload =>
      have hpayload : payload.uiPluginPath = some value := hvalue
      rw [performPlugin] at h
      -- Every branch that does not reach the save has failed.
      split at h
      · cases h
      · rename_i attrs hvalid
        have hpath := uiPluginPath_of_runValidation hvalid
        rw [hpayload] at hpath
        split at h
        · cases h
        · rename_i r hnew
          split at h
          · cases h
          · have hfields :
                r.pk = pk ∧ r.kind = .uiPluginRoute (stripSlashes (Text.strip value)) := by
              unfold newPluginRoute at hnew
              simp only [Option.bind_eq_bind, Option.bind_eq_some_iff, hpath] at hnew
              obtain ⟨_, -, _, -, _, -, _, -, _, -, _, -, hr⟩ := hnew
              cases hr
              exact ⟨rfl, by simp only [UIPluginAttrs.assign, hpath, Option.map_some]⟩
            have hrow := row_of_save hfields.2 (ok_of_mapError h)
            rwa [hfields.1] at hrow
  | update isPartial fromProxy pk payload =>
      have hpayload : payload.uiPluginPath = some value := hvalue
      rw [performPlugin] at h
      split at h
      · cases h
      · rename_i r hfind
        split at h
        · cases h
        · split at h
          · cases h
          · rename_i attrs hvalid
            have hpath := uiPluginPath_of_runValidation hvalid
            rw [hpayload] at hpath
            -- Whatever the row had before, the path in the payload replaces it.
            have hkind :
                (attrs.assign r).kind = .uiPluginRoute (stripSlashes (Text.strip value)) := by
              simp only [UIPluginAttrs.assign, hpath, Option.map_some]
            have hfound := List.find?_some hfind
            have hpk : (attrs.assign r).pk = pk := (of_decide_eq_true hfound).1
            have hrow := row_of_save hkind (ok_of_mapError h)
            rwa [hpk] at hrow

/-- A path that begins with the prefix of an entry is rewritten. -/
theorem rewrittenPath_mainEntry (p : Preferences) (r : RouteInstance) (suffix : String) :
    rewrittenPath (r.mainEntry p) (r.gatewayPath ++ suffix) = some (r.servicePath ++ suffix) := by
  have hstarts : Text.startsWith (r.gatewayPath ++ suffix) r.gatewayPath = true := by
    rw [Text.startsWith, String.toList_append]
    exact List.isPrefixOf_iff_prefix.mpr (List.prefix_append _ _)
  show (if Text.startsWith (r.gatewayPath ++ suffix) r.gatewayPath then _ else none) = _
  rw [if_pos hstarts, String.toList_append, List.drop_left, String.ofList_toList]

/-- The proxy puts the stripped path of the plugin directly in front of the suffix, and it knows no
route of a plugin whose path is only slashes. -/
theorem mem_rewrittenPaths {pk : ℕ} {path' : String}
    (hrows : ∀ row ∈ t.routes, row.pk = pk → row.kind = .uiPluginRoute path)
    (h : path' ∈ rewrittenPaths t pk suffix) : path ≠ "" ∧ path' = path ++ suffix := by
  obtain ⟨row, hrow, hpath'⟩ := List.mem_flatMap.mp h
  obtain ⟨hmem, hpk⟩ := List.mem_filter.mp hrow
  have hkind := hrows row hmem (of_decide_eq_true hpk)
  obtain ⟨e, he, hrewritten⟩ := List.mem_filterMap.mp hpath'
  obtain ⟨r, hr, he⟩ := List.mem_flatMap.mp he
  obtain ⟨c, -, rfl⟩ := Option.map_eq_some_iff.mp (Option.mem_toList.mp hr)
  unfold getXdsPluginRouteConfig at he
  rw [show (row.withCluster c).kind = .uiPluginRoute path from hkind] at he
  dsimp only at he
  split at he
  · exact absurd he List.not_mem_nil
  · -- The one entry matches every path that begins with the gateway path.
    rename_i hset
    rw [not_or, not_or] at hset
    obtain rfl := List.mem_singleton.mp he
    have hmain := rewrittenPath_mainEntry t.preferences
      { row.withCluster c with servicePath := path } suffix
    exact ⟨hset.2.1, (Option.some.inj (hrewritten.symm.trans hmain))⟩

/-- A path in front of which the slashes were stripped does not become one with a slash in front. -/
theorem not_rewritesPlugin_of_stripped {pk : ℕ} {value value' : String}
    (hrows : ∀ row ∈ t.routes, row.pk = pk → row.kind = .uiPluginRoute (stripSlashes value)) :
    ¬RewritesPlugin t pk value' suffix := by
  intro h
  obtain ⟨hne, heq⟩ := mem_rewrittenPaths hrows h
  obtain ⟨c, cs, hcs⟩ := List.exists_cons_of_ne_nil fun hnil =>
    hne (String.toList_eq_nil_iff.mp hnil)
  have hchars := congrArg String.toList heq
  simp only [String.toList_append, hcs, List.cons_append, List.append_assoc] at hchars
  -- The asked path begins with a slash, the path that was sent with that of the plugin.
  have hhead := head?_stripSlashes value
  rw [hcs] at hhead
  exact hhead (congrArg some (List.cons.inj hchars).1.symm)

end Stored

/-- No request under a plugin route that was stored through the serializer gets to the path of the
plugin on the service. -/
theorem not_rewritesPlugin {env : PluginEnv} {db db' : Database} {req : PluginRequest}
    {uiPluginPath : String} (hperform : performPlugin env db req = .ok db')
    (hpath : req.payload.uiPluginPath = some uiPluginPath) (suffix : String) :
    ¬RewritesPlugin db'.toTables req.pk uiPluginPath suffix :=
  not_rewritesPlugin_of_stripped fun row hrow hpk =>
    (row_of_performPlugin hperform hpath row hrow hpk).1

/-! ## A plugin of the EDA service -/

/-- Serializers whose base classes reject nothing. -/
def plainPluginSerializers : PluginEnv where
  toSerializerEnv := plainSerializers
  pluginChecks _ _ := []

/-- A create of a plugin route. -/
def pluginCreate (uiPluginPath : String) : PluginRequest :=
  .create 1
    { name := some "eda ui", httpPort := some 1, serviceCluster := some 1
      servicePort := some 8000, isServiceHttps := some false, uiPluginPath := some uiPluginPath }

/-- The EDA service with the plugin `eda/ui`. -/
def pluginDatabase : Database :=
  ⟨webhookTables false
      [{ pk := 1, name := "eda ui", kind := .uiPluginRoute "eda/ui", httpPort := 1
         serviceCluster := 1, servicePort := 8000, isServiceHttps := false, servicePath := "eda/ui"
         gatewayPath := "/plugin/eda/eda/ui/", enableGatewayAuth := false
         envoyClusterName := "cluster-1-8000-nodes:*" }],
    by decide⟩

/-- The path of a plugin that is given with slashes. -/
theorem not_rewritesPlugin_slashes :
    ¬RewritesPlugin pluginDatabase.toTables 1 "/eda/ui/" "main.js" := by
  have hperform : performPlugin plainPluginSerializers webhookDatabase (pluginCreate "/eda/ui/") =
      .ok pluginDatabase := rfl
  exact not_rewritesPlugin hperform rfl "main.js"

/-- A request for a script of the plugin is sent to a path without separators. -/
theorem rewrittenPaths_eda :
    performPlugin plainPluginSerializers webhookDatabase (pluginCreate "eda/ui") =
        .ok pluginDatabase ∧
      rewrittenPaths pluginDatabase.toTables 1 "main.js" = ["eda/uimain.js"] ∧
      ¬RewritesPlugin pluginDatabase.toTables 1 "eda/ui" "main.js" := by
  refine ⟨rfl, by decide, by decide⟩

end AapGateway.Routes
